import TaggedCache.Proofs.TagCommand
import TaggedCache.Proofs.TagSet

/-!
# Tags are checked before any bin is asked

The first element of a list that is no tag is named with its position, before anything else happens
(`listFrom_refused`). A list of tags is never refused, and every bin is asked for the set of just these tags. A
command that is tried once more may ask for other tags the second time: for those of the record that waits in front
(`Notifier.again`).
-/

namespace TaggedCache

/-! ## The first element that is no tag -/

namespace Tag

variable {α : Type} {tag : Nat → α → Except Fault Tag} {bad : α → Bool} {x : α} {xs : List α}
  {index : Nat}

theorem listFrom_refused (fault : Nat → α → Fault) (hgood : ∀ i x, bad x = false → ∃ t, tag i x = .ok t)
    (hbad : ∀ i x, bad x = true → tag i x = .error (fault i x)) (h : xs.find? bad = some x) :
    listFrom tag index xs = .error (fault (index + xs.findIdx bad) x) := by
  induction xs generalizing index with
  | nil => cases h
  | cons y rest ih =>
    rw [List.find?_cons] at h
    rw [List.findIdx_cons]
    cases hy : bad y with
    | true =>
      simp only [hy, Option.some.injEq] at h
      subst h
      rw [listFrom, hbad index y hy]
      rfl
    | false =>
      simp only [hy] at h
      obtain ⟨t, ht⟩ := hgood index y hy
      rw [listFrom, ht, ih h, cond_false, Nat.add_right_comm]
      rfl

theorem listFrom_ofValue_text (index : Nat) (texts : List String) :
    listFrom ofValue index (texts.map .text) = listFrom ofText index texts := by
  induction texts generalizing index with
  | nil => rfl
  | cons text rest ih =>
    rw [List.map_cons, listFrom, listFrom, ih]
    rfl

/-- True for the values that are tags: texts that are not empty. -/
def isTag : Json → Bool
  | .text s => s ≠ ""
  | _ => false

/-- Why a value is no tag. -/
def flaw : Json → String
  | .text _ => emptyReason
  | v => kindReason v

theorem isTag_iff {v : Json} : isTag v = true ↔ ∃ text ≠ "", v = .text text := by
  cases v with
  | text s => simp [isTag]
  | _ => exact iff_of_false nofun nofun

theorem ofValue_of_not_isTag {v : Json} (h : isTag v = false) :
    ofValue index v = .error (.invalidTag index (flaw v)) := by
  cases v with
  | text s =>
    obtain rfl : s = "" := by simpa [isTag] using h
    rfl
  | _ => rfl

end Tag

namespace TagSet

variable {texts : List String} {values : List Json} {v : Json}

theorem ofTexts_refused (h : "" ∈ texts) :
    ofTexts texts = .error (.invalidTag (texts.idxOf "") Tag.emptyReason) := by
  obtain ⟨text, hfind⟩ : ∃ text, texts.find? (· == "") = some text :=
    Option.isSome_iff_exists.mp (List.find?_isSome.mpr ⟨"", h, beq_self_eq_true ""⟩)
  have hlist : Tag.listFrom Tag.ofText 0 texts = .error (.invalidTag (0 + texts.idxOf "") Tag.emptyReason) := by
    refine Tag.listFrom_refused (fun i _ => .invalidTag i Tag.emptyReason) (fun i text ht => ?_)
      (fun i text ht => dif_pos (eq_of_beq ht)) hfind
    have hne : text ≠ "" := by simpa using ht
    exact ⟨⟨text, hne⟩, Tag.ofText_eq_ok_iff.mpr rfl⟩
  rw [ofTexts, hlist, Nat.zero_add]
  rfl

theorem ofValues_refused (h : values.find? (!Tag.isTag ·) = some v) :
    ofValues values = .error (.invalidTag (values.findIdx (!Tag.isTag ·)) (Tag.flaw v)) := by
  have hlist : Tag.listFrom Tag.ofValue 0 values =
      .error (.invalidTag (0 + values.findIdx (!Tag.isTag ·)) (Tag.flaw v)) := by
    refine Tag.listFrom_refused (fun i v => .invalidTag i (Tag.flaw v)) (fun i v hv => ?_)
      (fun i v hv => Tag.ofValue_of_not_isTag (by simpa using hv)) h
    obtain ⟨text, hne, rfl⟩ := Tag.isTag_iff.mp (by simpa using hv)
    exact ⟨⟨text, hne⟩, Tag.ofValue_eq_ok_iff.mpr rfl⟩
  rw [ofValues, hlist, Nat.zero_add]
  rfl

/-- The check of JSON values and the check of texts agree. -/
theorem ofValues_text (texts : List String) : ofValues (texts.map .text) = ofTexts texts := by
  rw [ofValues, ofTexts, Tag.listFrom_ofValue_text]

theorem forall_isTag_iff :
    (∀ v ∈ values, Tag.isTag v = true) ↔ ∃ texts : List String, "" ∉ texts ∧ values = texts.map .text := by
  simp only [Tag.isTag_iff]
  constructor
  · intro h
    have hform : ∀ v ∈ values, ∃ t : Tag, Json.text t.text = v := by
      intro v hv
      obtain ⟨text, hne, he⟩ := h v hv
      exact ⟨⟨text, hne⟩, he.symm⟩
    obtain ⟨ts, rfl⟩ := Tag.exists_map_iff.mpr hform
    exact ⟨ts.map (·.text), by simp [Tag.text_ne_empty], by simp⟩
  · rintro ⟨texts, hne, rfl⟩ v hv
    obtain ⟨text, htext, rfl⟩ := List.mem_map.mp hv
    exact ⟨text, fun he => hne (he ▸ htext), rfl⟩

end TagSet

/-! ## Entry points -/

namespace FailureLog

variable {l : FailureLog}

/-- The record in front of the next one when that has come in. Nothing is there when it is alone. -/
def front? (l : FailureLog) : Option Record := l.kept.head?

theorem head?_record (fault : BroadcastFault) (tags : TagSet) :
    (l.record fault tags).2.records.head? = some (l.front?.getD (l.record fault tags).1) := by
  rw [records_record, front?]
  cases l.kept <;> rfl

end FailureLog

namespace Broadcaster

variable {β : Type} [Storage β] {operation : Operation} {texts : List String} {tags : TagSet} {b : Broadcaster β}

theorem sendTexts_of_ok (h : TagSet.ofTexts texts = .ok tags) :
    b.sendTexts operation texts = ((b.send operation tags).1.mapError .broadcast, (b.send operation tags).2) := by
  rw [sendTexts, h]
  rfl

theorem sendValues_text (operation : Operation) (texts : List String) (b : Broadcaster β) :
    b.sendValues operation (texts.map .text) = b.sendTexts operation texts := by
  rw [sendValues, sendTexts, TagSet.ofValues_text]

theorem sendTexts_ne_invalidTag (h : TagSet.ofTexts texts = .ok tags) (i : Nat) (reason : String) :
    (b.sendTexts operation texts).1 ≠ .error (.invalidTag i reason) := by
  rw [sendTexts_of_ok h]
  cases (b.send operation tags).1 <;> simp [Except.mapError]

theorem failing_watched : b.watched.failing operation tags = b.failing operation tags := by
  rw [failing, failing, watched, Roster.map, List.filter_map, List.map_map]
  rfl

end Broadcaster

namespace Notifier

open Command (asked? asking applyTags)

variable {β : Type}

/-- The notifier with bins that remember what they are asked. Nothing was asked yet. -/
def watched (n : Notifier β) : Notifier (Watched β) := ⟨n.broadcaster.watched, n.log⟩

variable [Storage β] {operation : Operation} {texts : List String} {tags : TagSet} {fault : Fault}
  {n : Notifier β}

/-- Whatever takes texts answers with the fault and leaves everything as it was: the bins, the counts and the
log, and so the metrics. -/
structure Refuses (operation : Operation) (texts : List String) (fault : Fault) (n : Notifier β) : Prop where
  broadcast : n.broadcaster.sendTexts operation texts = (.error fault, n.broadcaster)
  changed : n.tagsChanged texts = (.error fault, n)
  deleted : n.tagsDeleted texts = (.error fault, n)
  command : applyTags operation texts n = (.error (.cache fault), n)

theorem refuses_of_error (h : TagSet.ofTexts texts = .error fault) : n.Refuses operation texts fault where
  broadcast := by rw [Broadcaster.sendTexts, h]; rfl
  changed := by rw [tagsChanged, notifyTexts, h]
  deleted := by rw [tagsDeleted, notifyTexts, h]
  command := by rw [applyTags, notifyTexts, h]

/-- Whatever takes texts, or JSON values that are texts, does not refuse these. -/
structure Accepts (operation : Operation) (texts : List String) (n : Notifier β) : Prop where
  broadcast : ∀ i reason, (n.broadcaster.sendTexts operation texts).1 ≠ .error (.invalidTag i reason)
  values : ∀ i reason,
    (n.broadcaster.sendValues operation (texts.map .text)).1 ≠ .error (.invalidTag i reason)
  changed : ∀ i reason, (n.tagsChanged texts).1 ≠ .error (.invalidTag i reason)
  deleted : ∀ i reason, (n.tagsDeleted texts).1 ≠ .error (.invalidTag i reason)
  command : ∀ i reason, (applyTags operation texts n).1 ≠ .error (.cache (.invalidTag i reason))

theorem accepts_of_ok (h : TagSet.ofTexts texts = .ok tags) : n.Accepts operation texts where
  broadcast := Broadcaster.sendTexts_ne_invalidTag h
  values := Broadcaster.sendValues_text operation texts n.broadcaster ▸ Broadcaster.sendTexts_ne_invalidTag h
  changed i reason := by simp [tagsChanged, notifyTexts, h]
  deleted i reason := by simp [tagsDeleted, notifyTexts, h]
  command i reason := by
    rw [Command.applyTags_eq n h]
    split
    · simp
    · dsimp only
      split <;> simp

/-! ## What the bins are asked -/

/-- What a command asks of each bin when it is tried once more: for what the record in front asks for. -/
def again (operation : Operation) (tags : TagSet) (n : Notifier β) : List (Operation × TagSet) :=
  if n.broadcaster.failing operation tags = [] then []
  else (n.log.front?.map fun r => asking r.operation r.tags).getD (asking operation tags)

/-- A bin that is there is asked for this set by whatever takes texts, and only once unless a command is tried
again. -/
structure Hands (operation : Operation) (texts : List String) (tags : TagSet) (n : Notifier β) (name : String) :
    Prop where
  broadcast : asked? name { n.watched with broadcaster := (n.watched.broadcaster.sendTexts operation texts).2 } =
    (n.broadcaster.bins.get? name).map fun _ => asking operation tags
  values :
    asked? name
        { n.watched with
          broadcaster := (n.watched.broadcaster.sendValues operation (texts.map .text)).2 } =
      (n.broadcaster.bins.get? name).map fun _ => asking operation tags
  changed : asked? name (n.watched.tagsChanged texts).2 =
    (n.broadcaster.bins.get? name).map fun _ => asking .invalidate tags
  deleted : asked? name (n.watched.tagsDeleted texts).2 =
    (n.broadcaster.bins.get? name).map fun _ => asking .delete tags
  command : asked? name (applyTags operation texts n.watched).2 =
    (n.broadcaster.bins.get? name).map fun _ => asking operation tags ++ n.again operation tags

theorem attempts_watched (n : Notifier β) :
    ((Command.attempts operation tags n.watched).flatMap fun a => asking a.operation a.tags) =
      asking operation tags ++ n.again operation tags := by
  have hfailing : n.watched.broadcaster.failing operation tags = n.broadcaster.failing operation tags :=
    Broadcaster.failing_watched
  unfold Command.attempts again
  rw [List.flatMap_cons, hfailing]
  refine congrArg (asking operation tags ++ ·) ?_
  split
  · rfl
  · next hf =>
    rcases notify_cases operation tags n.watched with ⟨hnil, -⟩ | ⟨-, -, fault, -, hl, hop, -⟩
    · exact absurd (hfailing ▸ hnil) hf
    · have hdrain : ((n.log.record fault tags).2.drain 1).1 =
          [n.log.front?.getD (n.log.record fault tags).1] := by
        rw [FailureLog.drain, List.take_one, FailureLog.head?_record]
        rfl
      have hlog : (n.watched.notify operation tags).2.log = (n.log.record fault tags).2 := hl
      have hown : (n.log.record fault tags).1.operation = operation := hop
      have htags : (n.log.record fault tags).1.tags = tags := rfl
      rw [hlog, hdrain]
      cases n.log.front? with
      | none => simp [Command.attempt, hown, htags]
      | some r => simp [Command.attempt]

theorem hands_of_ok (h : TagSet.ofTexts texts = .ok tags) (n : Notifier β) (name : String) :
    n.Hands operation texts tags name := by
  have hnew : asked? name n.watched = (n.broadcaster.bins.get? name).map fun _ => [] := by
    rw [asked?, watched, Broadcaster.watched, Roster.get?_map, Option.map_map]
    rfl
  have hnotify (operation : Operation) : asked? name (n.watched.notify operation tags).2 =
      (n.broadcaster.bins.get? name).map fun _ => asking operation tags := by
    rw [Command.asked?_notify, hnew, Option.map_map]
    rfl
  have hsend : asked? name
      { n.watched with broadcaster := (n.watched.broadcaster.sendTexts operation texts).2 } =
      (n.broadcaster.bins.get? name).map fun _ => asking operation tags := by
    rw [Broadcaster.sendTexts_of_ok h, Command.asked?_send, hnew, Option.map_map]
    rfl
  constructor
  case broadcast => exact hsend
  case values => rw [Broadcaster.sendValues_text, hsend]
  case changed =>
    rw [tagsChanged, notifyTexts, h, ← hnotify]
  case deleted =>
    rw [tagsDeleted, notifyTexts, h, ← hnotify]
  case command =>
    rw [Command.asked?_applyTags name h, attempts_watched, hnew, Option.map_map]
    rfl

/-- Only the record in front can make a command ask for other tags. -/
theorem forall_again_iff :
    (∀ call ∈ n.again operation tags, call.2 = tags) ↔
      n.broadcaster.failing operation tags = [] ∨ ∀ r ∈ n.log.front?, r.tags.isEmpty = true ∨ r.tags = tags := by
  have hasking (operation : Operation) (other : TagSet) :
      (∀ call ∈ asking operation other, call.2 = tags) ↔ other.isEmpty = true ∨ other = tags := by
    unfold asking
    split
    · next h => simp [h]
    · next h => simp [h]
  unfold again
  split
  · next hf => simp [hf]
  · next hf =>
    rw [or_iff_right hf]
    cases n.log.front? with
    | none => exact iff_of_true ((hasking operation tags).mpr (.inr rfl)) nofun
    | some r => exact (hasking r.operation r.tags).trans (by simp)

/-- A list with an element that is no tag is refused for the first one, and nothing is touched: no bin is asked,
and the bins, the counts and the log stay as they are. Texts are refused when they are empty and JSON values
also when they are of another kind, and the two checks agree. A list of tags is never refused, and its set is
what each bin is asked for. A command asks for other tags as well exactly when a bin fails and the record that
is then in front asks for some. -/
theorem checked_before_asked (operation : Operation) (texts : List String) (values : List Json) (n : Notifier β) :
    ("" ∈ texts →
      let fault := Fault.invalidTag (texts.idxOf "") Tag.emptyReason
      n.Refuses operation texts fault ∧ n.watched.Refuses operation texts fault) ∧
    (∀ v, values.find? (!Tag.isTag ·) = some v →
      let fault := Fault.invalidTag (values.findIdx (!Tag.isTag ·)) (Tag.flaw v)
      n.broadcaster.sendValues operation values = (.error fault, n.broadcaster) ∧
        n.broadcaster.watched.sendValues operation values = (.error fault, n.broadcaster.watched)) ∧
    ((∀ v ∈ values, Tag.isTag v = true) ↔ ∃ texts : List String, "" ∉ texts ∧ values = texts.map .text) ∧
    n.broadcaster.sendValues operation (texts.map .text) = n.broadcaster.sendTexts operation texts ∧
    ("" ∉ texts → ∃ tags : TagSet, tags.Lists (· ∈ texts) ∧ n.Accepts operation texts ∧
      (∀ name, n.Hands operation texts tags name) ∧
      ((∀ call ∈ n.again operation tags, call.2 = tags) ↔
        n.broadcaster.failing operation tags = [] ∨
          ∀ r ∈ n.log.front?, r.tags.isEmpty = true ∨ r.tags = tags)) := by
  refine ⟨fun h => ?texts, fun v hv => ?values, TagSet.forall_isTag_iff, ?agree, fun h => ?tags⟩
  case texts =>
    have herror := TagSet.ofTexts_refused h
    exact ⟨refuses_of_error herror, refuses_of_error herror⟩
  case values =>
    have herror := TagSet.ofValues_refused hv
    exact ⟨by rw [Broadcaster.sendValues, herror]; rfl, by rw [Broadcaster.sendValues, herror]; rfl⟩
  case agree => exact Broadcaster.sendValues_text operation texts n.broadcaster
  case tags =>
    obtain ⟨tags, htags, -⟩ := TagSet.ofTexts_of_ne fun t ht he => h (he ▸ ht)
    have hlists := (TagSet.ofTexts_eq_ok_iff.mp htags).2
    exact ⟨tags, hlists, accepts_of_ok htags, hands_of_ok htags n, forall_again_iff⟩

theorem checked_before_asked_flaky :
    let n := after [.tell .invalidate ["node:1"]] (.new flaky 4)
    n.Refuses .delete ["node:2", "", "node:3", ""] (.invalidTag 1 "tag must not be empty") ∧
      n.broadcaster.sendValues .invalidate [.text "node:2", .null] =
        (.error (.invalidTag 1 "expected a string, found null"), n.broadcaster) ∧
      ∃ tags : TagSet, TagSet.ofTexts ["node:2"] = .ok tags ∧ n.Hands .invalidate ["node:2"] tags "render" := by
  intro n
  obtain ⟨htexts, -⟩ := checked_before_asked .delete ["node:2", "", "node:3", ""] [] n
  obtain ⟨-, hvalues, -, -, htags⟩ := checked_before_asked .invalidate ["node:2"] [.text "node:2", .null] n
  obtain ⟨tags, hlists, -, hhands, -⟩ := htags (by decide)
  exact ⟨(htexts (by decide)).1, (hvalues .null rfl).1, tags,
    TagSet.ofTexts_eq_ok_iff.mpr ⟨by decide, hlists⟩, hhands "render"⟩

/-- A notification for one tag failed and waits. A command for another tag fails as well, and when it is tried
again, the bin is asked for the first tag once more. -/
theorem asked_for_other_tags :
    let n := after [.tell .invalidate ["node:1"]] (.new flaky.watched 4)
    ∃ listed other : TagSet, TagSet.ofTexts ["node:2"] = .ok listed ∧ other ≠ listed ∧
      asked? "render" n = some [(.invalidate, other)] ∧
      asked? "render" (applyTags .invalidate ["node:2"] n).2 =
        some [(.invalidate, other), (.invalidate, listed), (.invalidate, other)] := by
  intro n
  refine ⟨⟨[⟨"node:2", by decide⟩], by simp⟩, ⟨[⟨"node:1", by decide⟩], by simp⟩, rfl, by decide, ?_, ?_⟩
  · decide +kernel
  · decide +kernel

end Notifier
end TaggedCache
