import TaggedCache.Proofs.PageCacheability
import TaggedCache.Proofs.PageTraffic

/-!
# The annotation layer inside the page cache

The page cache learns from the fields alone what was reported inside the annotation layer. An annotation without
fields is all that is left of what may not be cached, and to the page cache it says nothing: when something was
reported outside as well, the response is stored (`kept_out_iff_not_overlooked`, `profile_is_stored`).
-/

namespace TaggedCache
namespace Page

/-- The handler with the annotation layer around it, and with more reported between this layer and the page
cache. -/
def around (before after : List Collector.Step) (h : Handled) : Handled :=
  ⟨before ++ (annotate h).reports ++ after, (annotate h).response⟩

/-- The fields of the annotated response do not keep what was reported outside from being stored. -/
structure Overlooked (outer : Metadata) (h : Handled) : Prop where
  allowed : outer.shouldStore = true
  silent : heard (annotate h).response.headers = none → outer ≠ .empty
  heard : ∀ p, heard (annotate h).response.headers = some p → p.shouldStore = true

/-- No page cache writes anything for this service, whatever it is asked and whatever its bin is like. -/
def KeptOut (before after : List Collector.Step) (h : Handled) : Prop :=
  ∀ (β : Type) [Storage β] (layer : Layer) (v : Visit) (bin : β), v.handler = around before after h →
    BinCall.written (layer.asks v bin) = []

variable {before after : List Collector.Step} {h : Handled} {outer a m : Metadata}

theorem annotate_fields (h : Handled) : (annotate h).response.status = h.response.status ∧
    (annotate h).response.body = h.response.body := by
  unfold annotate
  simp only
  split
  · next m _ => exact annotated_fields m h.response
  · exact ⟨rfl, rfl⟩

/-- Nothing that is reported inside the annotation layer is reported to the page cache. -/
theorem cacheability_around (before after : List Collector.Step) (h : Handled) :
    cacheability (around before after h) =
      merged (Collector.collect (before ++ after)) (heard (annotate h).response.headers) := by
  rw [cacheability_eq, around]
  simp only [annotate, List.append_assoc, List.cons_append, List.nil_append, Collector.collect_around]

theorem overlooked_iff : Overlooked outer h ↔
    ∃ m, merged outer (heard (annotate h).response.headers) = some m ∧ m.shouldStore = true := by
  constructor
  · intro ho
    cases hm : merged outer (heard (annotate h).response.headers) with
    | none =>
      have ⟨hempty, hsilent⟩ := merged_eq_none_iff.mp hm
      exact absurd hempty (ho.silent hsilent)
    | some m => exact ⟨m, rfl, (shouldStore_merged hm).mpr ⟨ho.allowed, ho.heard⟩⟩
  · rintro ⟨m, hm, hstore⟩
    have ⟨hallowed, hheard⟩ := (shouldStore_merged hm).mp hstore
    refine ⟨hallowed, fun hsilent hempty => ?_, hheard⟩
    rw [merged_eq_none_iff.mpr ⟨hempty, hsilent⟩] at hm
    cases hm

/-! ## Storing what is overlooked -/

/-- A page cache that resolves every context and has room for every body. -/
def generous (h : Handled) : Layer :=
  ⟨"page", max h.response.body.bytes.length h.response.body.atLeast, some fun _ _ => some ""⟩

theorem generous_keeps (hstatus : h.response.status = 200) (herror : h.response.body.lastError? = none)
    (ho : Overlooked (Collector.collect (before ++ after)) h) :
    ∃ m, (generous h).Keeps (atRoot (around before after h)) m := by
  obtain ⟨m, hm, hstore⟩ := overlooked_iff.mp ho
  have ⟨hs, hb⟩ := annotate_fields h
  refine ⟨m, (cacheability_around before after h).trans hm, hstore, hs.trans hstatus, fun _ _ => rfl, ?_⟩
  show (annotate h).response.body.Fits _
  rw [hb]
  exact ⟨herror, Nat.le_max_left _ _, Nat.le_max_right _ _⟩

theorem keptOut_iff : KeptOut before after h ↔ (h.response.status = 200 →
    h.response.body.lastError? = none → ¬ Overlooked (Collector.collect (before ++ after)) h) := by
  constructor
  · intro hout hstatus herror ho
    obtain ⟨m, hkeeps⟩ := generous_keeps hstatus herror ho
    obtain ⟨f, hf, -⟩ := exists_filing? hkeeps
    have hwritten := hout Memory (generous h) (atRoot (around before after h)) (Memory.new "page" 1) rfl
    rw [written_ran rfl rfl, hf] at hwritten
    simp only [written_calls] at hwritten
    cases hwritten
  · intro hnot β _ layer v bin hv
    have ⟨hs, hb⟩ := annotate_fields h
    refine List.eq_nil_iff_forall_not_mem.mpr fun w hw => ?_
    obtain ⟨-, -, f, hf, -⟩ := of_mem_written hw
    have hkeeps := keeps_of_filing? hf
    have habout := hkeeps.about
    have hstatus := hkeeps.status
    have herror := hkeeps.complete.faultless
    rw [hv] at habout hstatus herror
    refine hnot (hs.symm.trans hstatus) (hb ▸ herror) (overlooked_iff.mpr ⟨f.about, ?_, hkeeps.allowed⟩)
    rw [← cacheability_around, habout]

/-! ## What is overlooked -/

theorem keptOut_of_outer (ha : .record a ∈ before ++ after) (hstore : a.shouldStore = false) :
    KeptOut before after h := by
  refine keptOut_iff.mpr fun _ _ ho => ?_
  have hallowed := ho.allowed
  rw [Collector.shouldStore_of_mem ha hstore] at hallowed
  cases hallowed

/-- What may not be stored inside the annotation layer is overlooked only when its annotation says nothing, or
when it cannot be written and the fields of the handler stand. -/
theorem annotation_of_overlooked (ha : .record a ∈ h.reports) (hstore : a.shouldStore = false)
    (ho : Overlooked outer h) : ∃ m, cacheability h = some m ∧ m.shouldStore = false ∧
      (heard (annotate h).response.headers = none ∨
        (∃ fault, CacheHeaders.ofMetadata m = .error fault) ∧ (annotate h).response = h.response) := by
  have hinner := Collector.shouldStore_of_mem ha hstore
  have hne : Collector.collect h.reports ≠ .empty := by
    intro he
    rw [he] at hinner
    cases hinner
  cases hm : cacheability h with
  | none =>
    rw [cacheability_eq] at hm
    exact absurd (merged_eq_none_iff.mp hm).1 hne
  | some m =>
    have hmerged := hm
    rw [cacheability_eq] at hmerged
    have hm' : m.shouldStore = false := by
      cases hs : m.shouldStore with
      | false => rfl
      | true =>
        rw [((shouldStore_merged hmerged).mp hs).1] at hinner
        cases hinner
    refine ⟨m, rfl, hm', ?_⟩
    have hannotate : (annotate h).response = annotated m h.response := by
      unfold annotate
      rw [hm]
    cases hfields : CacheHeaders.ofMetadata m with
    | error fault => exact .inr ⟨⟨fault, rfl⟩, hannotate.trans (annotated_of_error hfields h.response)⟩
    | ok fields =>
      refine .inl (Option.eq_none_iff_forall_ne_some.mpr fun p hp => ?_)
      have hallowed := ho.heard p hp
      rw [hannotate] at hp
      rw [heard_annotated hfields hm' _ hp] at hallowed
      cases hallowed

theorem overlooked_of_not_cacheable (hm : cacheability h = some m) (hc : m.cacheable = false) :
    Overlooked outer h ↔ outer.shouldStore = true ∧ outer ≠ .empty := by
  have hsilent : heard (annotate h).response.headers = none := by
    unfold annotate
    rw [hm]
    exact heard_annotated_of_not_cacheable hc h.response
  constructor
  · intro ho
    exact ⟨ho.allowed, ho.silent hsilent⟩
  · rintro ⟨hallowed, hne⟩
    refine ⟨hallowed, fun _ => hne, fun p hp => ?_⟩
    rw [hsilent] at hp
    cases hp

/-- The page cache keeps a service out exactly when its answer is not of status 200, when its body fails, or when
what was reported outside the annotation layer, together with the annotated fields, may not be stored. What was
reported outside always counts. What was reported inside counts only when its annotation was written and says
something; and when it is not cacheable, the annotation says nothing. -/
theorem kept_out_iff_not_overlooked (before after : List Collector.Step) (h : Handled) :
    let outer := Collector.collect (before ++ after)
    (KeptOut before after h ↔ (h.response.status = 200 → h.response.body.lastError? = none →
      ¬ Overlooked outer h)) ∧
    (∀ a, .record a ∈ before ++ after → a.shouldStore = false → KeptOut before after h) ∧
    (∀ a, .record a ∈ h.reports → a.shouldStore = false → Overlooked outer h →
      ∃ m, cacheability h = some m ∧ m.shouldStore = false ∧
        (heard (annotate h).response.headers = none ∨
          (∃ fault, CacheHeaders.ofMetadata m = .error fault) ∧ (annotate h).response = h.response)) ∧
    (∀ m, cacheability h = some m → m.cacheable = false →
      (Overlooked outer h ↔ outer.shouldStore = true ∧ outer ≠ .empty)) :=
  ⟨keptOut_iff, fun _ => keptOut_of_outer, fun _ => annotation_of_overlooked,
    fun _ => overlooked_of_not_cacheable⟩

/-- What is made for one request alone. -/
def unshared : Metadata := { Metadata.empty with cacheable := false }

/-- An answer with the name of a user. -/
def profile : Handled := ⟨[.record unshared], 200, [], .ofBytes (.ofText "alice")⟩

/-- What the frame of a page reports: a minute, for everyone. -/
def frame : Metadata := { Metadata.empty with maxAge := .seconds 60 }

/-- The answer lands in the bin for everyone once the frame of its page is reported outside. -/
theorem profile_is_stored :
    ¬ ∀ (before after : List Collector.Step) (h : Handled) (a : Metadata),
      (.record a ∈ before ++ after ∨ .record a ∈ h.reports) → (a.cacheable = false ∨ a.maxAge = .zero) →
      KeptOut before after h := by
  intro hall
  have hout := hall [.record frame] [] profile unshared (by simp [profile]) (.inl rfl)
  have hinner : Collector.collect profile.reports ≠ .empty :=
    fun he => absurd (congrArg Metadata.cacheable he) (by decide)
  have houter : Collector.collect ([.record frame] ++ []) ≠ .empty :=
    fun he => absurd (congrArg Metadata.maxAge he) (by decide)
  exact keptOut_iff.mp hout rfl rfl
    ((overlooked_of_not_cacheable (cacheability_of_silent rfl hinner) rfl).mpr ⟨by decide, houter⟩)

end Page
end TaggedCache
