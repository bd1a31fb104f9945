import TaggedCache.Proofs.CacheHeaders
import TaggedCache.Proofs.PageTags

/-!
# What the annotation layer tells

A response behind the annotation layer should say all that is known about how it may be cached, or nothing
(`Complete`). What is known can be written unless it holds a character that no header value may hold
(`exists_ofMetadata_iff`), and then the response says all of it. If it cannot be written, the response keeps the
fields of the handler, which may say less (`complete_annotate_iff`, `annotate_understates`).
-/

namespace TaggedCache

namespace CacheHeaders

variable {m : Metadata} {a : CacheHeaders} {hs : Headers} {tags : TagSet} {keys : List KeyPart} {t : Tag}

/-! ## Fields that say everything -/

/-- None of the three fields is there. -/
def Bare (hs : Headers) : Prop := ∀ name ∈ [tagsName, maxAgeName, keysName], hs.values name = []

/-- The tag is a word of the value. -/
def Lists (value : Bytes) (t : Tag) : Prop :=
  ∃ text, value = .ofText text ∧ t.text.toList ∈ text.toList.splitOnP Text.isBlank

/-- The fields list all tags and give the age, which has no field when it is zero. -/
structure Tells (m : Metadata) (hs : Headers) : Prop where
  tags : ∀ t ∈ m.tags, ∃ value ∈ hs.values tagsName, Lists value t
  age : m.maxAge = .zero ∧ hs.values maxAgeName = [] ∨
    m.maxAge ≠ .zero ∧ ∃ value, hs.values maxAgeName = [value] ∧ readMaxAge value = .ok m.maxAge

/-- The fields say all there is to say, or nothing. -/
def Complete (m : Metadata) (hs : Headers) : Prop := Bare hs ∨ Tells m hs

theorem bare_empty (hs : Headers) : Bare (empty.apply hs) := by
  intro name hname
  simp only [List.mem_cons, List.not_mem_nil, or_false] at hname
  rw [values_apply]
  rcases hname with rfl | rfl | rfl <;> rfl

theorem bare_of_read_none (h : read hs = .ok none) : Bare hs := by
  unfold read at h
  simp only at h
  split at h
  · next hempty =>
    simp only [isEmpty, Bool.and_eq_true, Option.isNone_iff_eq_none] at hempty
    obtain ⟨⟨htags, hage⟩, hkeys⟩ := hempty
    intro name hname
    simp only [List.mem_cons, List.not_mem_nil, or_false] at hname
    rw [Headers.values_eq_nil_iff]
    rcases hname with rfl | rfl | rfl
    · exact htags
    · exact hage
    · exact hkeys
  · obtain ⟨tags, -, h⟩ := bind_ok h
    obtain ⟨age, -, h⟩ := bind_ok h
    obtain ⟨keys, -, h⟩ := bind_ok h
    cases h

theorem lists_of_tagsValue {field : Option Bytes} (h : tagsValue tags = .ok field)
    (hblank : ∀ t ∈ tags, ∀ c ∈ t.text.toList, Text.isBlank c = false) (ht : t ∈ tags) :
    ∃ value ∈ field, Lists value t := by
  rcases tagsValue_ok h with ⟨rfl, -⟩ | ⟨-, bs, hbs, rfl⟩
  · exact absurd ht List.not_mem_nil
  · refine ⟨bs, rfl, tags.join " ", Headers.ofText_of_ofText? hbs, ?_⟩
    rw [TagSet.splitOnP_join hblank (List.ne_nil_of_mem ht)]
    exact List.mem_map_of_mem ht

/-- Whatever could be written says everything. -/
theorem complete_apply (h : ofMetadata m = .ok a) (hs : Headers)
    (hblank : ∀ t ∈ m.tags, ∀ c ∈ t.text.toList, Text.isBlank c = false) : Complete m (a.apply hs) := by
  cases hc : m.cacheable with
  | false =>
    rw [ofMetadata_of_not_cacheable hc] at h
    obtain rfl := Except.ok.inj h
    exact .inl (bare_empty hs)
  | true =>
    obtain ⟨htags, hage, -⟩ := ofMetadata_ok hc h
    refine .inr ⟨fun t ht => ?_, ?_⟩
    · obtain ⟨value, hvalue, hlists⟩ := lists_of_tagsValue htags hblank ht
      refine ⟨value, ?_, hlists⟩
      rw [values_apply, if_neg (by decide), if_neg (by decide), if_pos rfl]
      exact Option.mem_toList.mpr hvalue
    · have hread := readOr_maxAgeValue m.maxAge
      rw [values_apply, if_neg (by decide), if_pos rfl, hage]
      unfold maxAgeValue at hread ⊢
      by_cases hzero : m.maxAge.isZero = true
      · rw [if_pos hzero]
        exact .inl ⟨of_decide_eq_true hzero, rfl⟩
      · rw [if_neg hzero] at hread ⊢
        exact .inr ⟨fun hz => hzero (decide_eq_true hz), _, rfl, hread⟩

end CacheHeaders

namespace Page

open CacheHeaders (Complete Writable)

variable {h : Handled} {m : Metadata} {t : Tag}

/-! ## Behind the annotation layer -/

/-- All that is known about how a response may be cached. -/
def known (h : Handled) : Metadata := (cacheability h).getD .empty

/-- Tags from header fields have no white space, so none has any unless it was reported so. -/
theorem not_blank_of_mem_tags (hm : cacheability h = some m)
    (hblank : ∀ t, Collector.Reported t h.reports → ∀ c ∈ t.text.toList, Text.isBlank c = false)
    (ht : t ∈ m.tags) : ∀ c ∈ t.text.toList, Text.isBlank c = false := by
  rcases (mem_tags_cacheability hm).mp ht with hreported | ⟨-, value, text, -, -, hword⟩
  · exact hblank t hreported
  · exact Text.not_of_mem_splitOnP hword

theorem bare_of_cacheability_none (hread : ∃ said, CacheHeaders.read h.response.headers = .ok said)
    (hm : cacheability h = none) : CacheHeaders.Bare h.response.headers := by
  obtain ⟨said, hsaid⟩ := hread
  rw [cacheability_eq, merged_eq_none_iff, heard, hsaid] at hm
  exact CacheHeaders.bare_of_read_none (hm.2 ▸ hsaid)

/-- When the fields of the handler can be read and no reported tag has white space, the annotated response says all
that is known, or nothing, exactly when what is known can be written or the handler had said as much itself. -/
theorem complete_annotate_iff (h : Handled) (hread : ∃ said, CacheHeaders.read h.response.headers = .ok said)
    (hblank : ∀ t, Collector.Reported t h.reports → ∀ c ∈ t.text.toList, Text.isBlank c = false) :
    Complete (known h) (annotate h).response.headers ↔
      Writable (known h) ∨ Complete (known h) h.response.headers := by
  unfold known annotate
  cases hm : cacheability h with
  | none =>
    have hbare := bare_of_cacheability_none hread hm
    exact iff_of_true (.inl hbare) (.inr (.inl hbare))
  | some m =>
    show Complete m (annotated m h.response).headers ↔ Writable m ∨ Complete m h.response.headers
    rw [← CacheHeaders.exists_ofMetadata_iff]
    cases ha : CacheHeaders.ofMetadata m with
    | ok a =>
      have hcomplete : Complete m (annotated m h.response).headers := by
        unfold annotated
        rw [ha]
        exact CacheHeaders.complete_apply ha h.response.headers fun t => not_blank_of_mem_tags hm hblank
      exact iff_of_true hcomplete (.inl ⟨a, rfl⟩)
    | error fault =>
      -- Nothing is written, and nothing of the handler's is taken away.
      rw [annotated_of_error ha]
      exact (or_iff_right nofun).symm

/-- A tag with the delete character. -/
def deleted : Tag := ⟨"bad\x7ftag", by decide⟩

/-- A response that says one tag and a minute for itself, made from a part that must not be kept at all. -/
def understated : Handled where
  reports := [.record ⟨[], .ofList [deleted], .zero, true⟩]
  response := ⟨200, [("x-cache-tags", .ofText "node:1"), ("cache_max_age", .ofText "60")], .ofBytes []⟩

theorem annotate_understated : (annotate understated).response.headers = understated.response.headers := by
  decide +kernel

theorem deleted_mem_known : deleted ∈ (known understated).tags := by
  decide +kernel

theorem not_blank_understated (ht : Collector.Reported t understated.reports) :
    ∀ c ∈ t.text.toList, Text.isBlank c = false := by
  have hsolid : deleted.text.toList.all (fun c => Text.isBlank c = false) = true := by decide
  rcases ht with ht | ht
  · rw [List.mem_singleton.mp (TagSet.mem_ofList.mp ht)]
    exact Text.forall_of_all hsolid
  · exact ht.elim

theorem not_complete_understated : ¬ Complete (known understated) understated.response.headers := by
  have hvalues : understated.response.headers.values CacheHeaders.tagsName = [.ofText "node:1"] := by decide
  rintro (hbare | htells)
  · rw [hbare _ List.mem_cons_self] at hvalues
    cases hvalues
  · obtain ⟨value, hvalue, text, rfl, hword⟩ := htells.tags deleted deleted_mem_known
    rw [hvalues, List.mem_singleton] at hvalue
    rw [Bytes.ofText_injective hvalue] at hword
    exact absurd hword (by decide)

theorem complete_annotate_iff_understated :
    (∃ said, CacheHeaders.read understated.response.headers = .ok said) ∧
      (∀ t, Collector.Reported t understated.reports → ∀ c ∈ t.text.toList, Text.isBlank c = false) ∧
      ¬ Writable (known understated) ∧ ¬ Complete (known understated) (annotate understated).response.headers := by
  have hread : ∃ said, CacheHeaders.read understated.response.headers = .ok said := ⟨_, rfl⟩
  have hblank := fun t ht => not_blank_understated (t := t) ht
  have hnot : ¬ Complete (known understated) (annotate understated).response.headers :=
    annotate_understated ▸ not_complete_understated
  have hiff := complete_annotate_iff understated hread hblank
  exact ⟨hread, hblank, fun hw => hnot (hiff.mpr (.inl hw)), hnot⟩

/-- A response may say less than is known: here neither the part's tag nor that nothing may be kept. -/
theorem annotate_understates : ¬ ∀ h : Handled,
    (∃ said, CacheHeaders.read h.response.headers = .ok said) →
    (∀ t, Collector.Reported t h.reports → ∀ c ∈ t.text.toList, Text.isBlank c = false) →
    Complete (known h) (annotate h).response.headers := by
  intro hall
  refine not_complete_understated (annotate_understated ▸ hall understated ⟨_, rfl⟩ fun t ht => ?_)
  exact not_blank_understated ht

end Page
end TaggedCache
