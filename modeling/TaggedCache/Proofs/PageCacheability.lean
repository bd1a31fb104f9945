import TaggedCache.Proofs.Collector
import TaggedCache.Proofs.Header
import TaggedCache.Proofs.Outcome

/-!
# How the cacheability of a response comes about

What was reported while a response was made is put together with what its fields say (`cacheability_eq`). What
the fields say after they were annotated depends on the annotation alone, and an annotation that may not be
stored says so or says nothing (`heard_annotated`).
-/

namespace TaggedCache

namespace CacheHeaders

variable {hs : Headers} {a : CacheHeaders} {m : Metadata}

theorem get?_apply (a : CacheHeaders) (hs : Headers) :
    (a.apply hs).get? tagsName = a.tags ∧ (a.apply hs).get? maxAgeName = a.maxAge ∧
      (a.apply hs).get? keysName = a.keys := by
  have htags : tagsName ≠ keysName ∧ tagsName ≠ maxAgeName := by decide
  have hage : maxAgeName ≠ keysName := by decide
  unfold apply
  refine ⟨?_, ?_, ?_⟩
  · rw [Headers.get?_assign, if_neg htags.1, Headers.get?_assign, if_neg htags.2, Headers.get?_assign,
      if_pos rfl]
  · rw [Headers.get?_assign, if_neg hage, Headers.get?_assign, if_pos rfl]
  · rw [Headers.get?_assign, if_pos rfl]

/-- What is read field by field. -/
theorem read_some (h : read hs = .ok (some m)) :
    readOr .empty readTags (hs.get? tagsName) = .ok m.tags ∧
      readOr .zero readMaxAge (hs.get? maxAgeName) = .ok m.maxAge ∧
      readOr [] readKeys (hs.get? keysName) = .ok m.keys ∧ m.cacheable = true := by
  unfold read at h
  simp only at h
  split at h
  · cases h
  · obtain ⟨tags, htags, h⟩ := bind_ok h
    obtain ⟨age, hage, h⟩ := bind_ok h
    obtain ⟨keys, hkeys, h⟩ := bind_ok h
    obtain rfl := Option.some.inj (Except.ok.inj h)
    exact ⟨htags, hage, hkeys, rfl⟩

/-- Without a field for the age the age is zero. -/
theorem shouldStore_of_get?_none (h : read hs = .ok (some m)) (hage : hs.get? maxAgeName = none) :
    m.shouldStore = false := by
  have hzero := (read_some h).2.1
  rw [hage] at hzero
  have : m.maxAge = .zero := (Except.ok.inj hzero).symm
  simp [Metadata.shouldStore, this, MaxAge.isZero]

theorem read_empty : read (empty.apply hs) = .ok none := by
  have ⟨htags, hage, hkeys⟩ := get?_apply empty hs
  unfold read
  rw [htags, hage, hkeys]
  rfl

theorem ofMetadata_of_not_cacheable (h : m.cacheable = false) : ofMetadata m = .ok empty := by
  simp [ofMetadata, h]

/-- The annotation of what may not be stored has no field for the age. -/
theorem maxAge_of_not_shouldStore (h : ofMetadata m = .ok a) (hm : m.shouldStore = false) :
    a.maxAge = none := by
  cases hc : m.cacheable with
  | false =>
    rw [ofMetadata_of_not_cacheable hc] at h
    obtain rfl := Except.ok.inj h
    rfl
  | true =>
    have hzero : m.maxAge.isZero = true := by simpa [Metadata.shouldStore, hc] using hm
    unfold ofMetadata at h
    rw [hc, if_neg (by simp)] at h
    obtain ⟨tags, -, h⟩ := bind_ok h
    obtain ⟨keys, -, h⟩ := bind_ok h
    obtain rfl := Except.ok.inj h
    simp [maxAgeValue, hzero]

end CacheHeaders

namespace Page

/-- What the fields of a response say about how it may be cached. Fields that cannot be read say nothing. -/
def heard (hs : Headers) : Option Metadata :=
  match CacheHeaders.read hs with
  | .ok m => m
  | .error _ => none

/-- What was reported, put together with what the fields say. -/
def merged (collected : Metadata) : Option Metadata → Option Metadata
  | none => if collected = .empty then none else some collected
  | some m => some (if collected = .empty then m else collected.addPart m)

variable {collected m : Metadata} {said : Option Metadata} {h : Handled} {t : Tag} {a : CacheHeaders}

theorem cacheability_eq (h : Handled) :
    cacheability h = merged (Collector.collect h.reports) (heard h.response.headers) := by
  unfold cacheability heard
  by_cases hc : Collector.collect h.reports = .empty
  · rcases CacheHeaders.read h.response.headers with fault | _ | m <;> simp [merged, hc]
  · rcases CacheHeaders.read h.response.headers with fault | _ | m <;> simp [merged, hc]

theorem merged_eq_none_iff : merged collected said = none ↔ collected = .empty ∧ said = none := by
  cases said with
  | none => by_cases hc : collected = .empty <;> simp [merged, hc]
  | some m => simp [merged]

theorem shouldStore_merged (hm : merged collected said = some m) :
    m.shouldStore = true ↔ collected.shouldStore = true ∧ ∀ p, said = some p → p.shouldStore = true := by
  cases said with
  | none =>
    simp only [merged] at hm
    split at hm
    · cases hm
    · obtain rfl := Option.some.inj hm
      simp
  | some p =>
    obtain rfl := Option.some.inj hm
    by_cases hc : collected = .empty <;> simp [hc]

theorem mem_tags_merged (hm : merged collected said = some m) :
    t ∈ m.tags ↔ t ∈ collected.tags ∨ ∃ p, said = some p ∧ t ∈ p.tags := by
  have hempty : ¬ t ∈ Metadata.empty.tags := by simp [Metadata.empty, TagSet.empty, TagSet.mem_def]
  cases said with
  | none =>
    simp only [merged] at hm
    split at hm
    · cases hm
    · obtain rfl := Option.some.inj hm
      simp
  | some p =>
    obtain rfl := Option.some.inj hm
    by_cases hc : collected = .empty
    · simp [hc, hempty]
    · have hunion : t ∈ (collected.addPart p).tags ↔ t ∈ collected.tags ∨ t ∈ p.tags := TagSet.mem_union
      simp [hc, hunion]

/-- When the fields say nothing, what was reported counts. -/
theorem cacheability_of_silent (hs : heard h.response.headers = none)
    (hne : Collector.collect h.reports ≠ .empty) : cacheability h = some (Collector.collect h.reports) := by
  rw [cacheability_eq, hs, merged, if_neg hne]

/-! ## Annotated fields -/

theorem heard_annotated_of_not_cacheable (hm : m.cacheable = false) (r : Response) :
    heard (annotated m r).headers = none := by
  unfold heard annotated
  rw [CacheHeaders.ofMetadata_of_not_cacheable hm]
  simp only
  rw [CacheHeaders.read_empty]

/-- The annotation of what may not be stored says so, or says nothing. -/
theorem heard_annotated {p : Metadata} (ha : CacheHeaders.ofMetadata m = .ok a) (hm : m.shouldStore = false)
    (r : Response) (hp : heard (annotated m r).headers = some p) : p.shouldStore = false := by
  unfold heard annotated at hp
  rw [ha] at hp
  simp only at hp
  split at hp
  · next said hread =>
    obtain rfl := hp
    refine CacheHeaders.shouldStore_of_get?_none hread ?_
    rw [(CacheHeaders.get?_apply a r.headers).2.1]
    exact CacheHeaders.maxAge_of_not_shouldStore ha hm
  · cases hp

/-- When the annotation cannot be written the fields stay as they were. -/
theorem annotated_of_error {fault : Fault} (h : CacheHeaders.ofMetadata m = .error fault) (r : Response) :
    annotated m r = r := by
  unfold annotated
  rw [h]

end Page
end TaggedCache
