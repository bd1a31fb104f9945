import TaggedCache.Proofs.PageCacheability
import TaggedCache.Proofs.PageHits
import TaggedCache.Proofs.PageTraffic
import TaggedCache.Proofs.Tag

/-!
# The tags of stored pages

Whatever a visit writes has every tag that was reported and, when the fields of the handler can be read, every
word in the first field for tags. Naming one of these tags makes the page stale (`written_tags`). Next to a field
that cannot be read the others count for nothing (`tag_is_ignored`).
-/

namespace TaggedCache

namespace CacheHeaders

/-- The fields can be read, and the tag is a word in the first field for tags. -/
def States (hs : Headers) (t : Tag) : Prop :=
  (∃ m, read hs = .ok (some m)) ∧ ∃ value text, hs.get? tagsName = some value ∧
    Headers.text? value = some text ∧ t.text.toList ∈ text.toList.splitOnP Text.isBlank

variable {hs : Headers} {m : Metadata} {t : Tag} {tags : TagSet} {bs : Bytes}

/-- The tags of a field are its words. -/
theorem mem_readTags (h : readTags bs = .ok tags) : ∃ text, Headers.text? bs = some text ∧
    ∀ t, t ∈ tags ↔ t.text.toList ∈ text.toList.splitOnP Text.isBlank := by
  obtain ⟨s, hs, h⟩ := bind_ok h
  unfold text at hs
  split at hs
  · next s' htext =>
    obtain rfl := Except.ok.inj hs
    obtain ⟨tags', htags, hmem⟩ := TagSet.ofTexts_words s'.toList
    obtain rfl := Except.ok.inj (htags.symm.trans h)
    exact ⟨s', htext, hmem⟩
  · cases hs

theorem mem_tags_read (h : read hs = .ok (some m)) : t ∈ m.tags ↔ States hs t := by
  have htags := (read_some h).1
  unfold States
  cases hvalue : hs.get? tagsName with
  | none =>
    rw [hvalue] at htags
    rw [← Except.ok.inj htags]
    simp [TagSet.empty, TagSet.mem_def]
  | some value =>
    rw [hvalue] at htags
    obtain ⟨text, htext, hmem⟩ := mem_readTags htags
    simp [h, hmem, htext]

end CacheHeaders

namespace Page

variable {layer : Layer} {v : Visit} {key : String} {item : Item} {t : Tag}

/-! ## Tags of what is written -/

theorem mem_tags_cacheability {h : Handled} {m : Metadata} (hm : cacheability h = some m) :
    t ∈ m.tags ↔ Collector.Reported t h.reports ∨ CacheHeaders.States h.response.headers t := by
  rw [cacheability_eq] at hm
  rw [mem_tags_merged hm, Collector.mem_tags_collect]
  refine or_congr_right ?_
  unfold heard
  constructor
  · rintro ⟨p, hp, ht⟩
    split at hp
    · next hread =>
      obtain rfl := hp
      exact (CacheHeaders.mem_tags_read hread).mp ht
    · cases hp
  · rintro hstates
    obtain ⟨p, hread⟩ := hstates.1
    exact ⟨p, by rw [hread], (CacheHeaders.mem_tags_read hread).mpr hstates⟩

theorem mem_tags_written {β : Type} [Storage β] {bin : β}
    (h : (key, item) ∈ BinCall.written (layer.asks v bin)) :
    item.maxAge ≠ .zero ∧ (t ∈ item.tags ↔
      Collector.Reported t v.handler.reports ∨ CacheHeaders.States v.handler.response.headers t) := by
  obtain ⟨-, -, f, hf, ⟨-, rfl⟩ | ⟨-, -, rfl⟩⟩ := of_mem_written h
  · exact ⟨(filing?_storable hf).2, mem_tags_cacheability (filing?_some hf).1⟩
  · exact ⟨(filing?_storable hf).2, mem_tags_cacheability (filing?_some hf).1⟩

/-! ## A bin in memory -/

theorem lookup_calls (layer : Layer) (now : UInt64) (base : String) (headers : Headers) (m : Memory) :
    (lookup layer now base headers m).2 = BinCall.after Memory.step (layer.reads now base headers m) m := by
  have hread : ∀ (key : String) (m : Memory), read now key m = ((read now key m).1, (m.get now key).2) :=
    fun key m => Prod.ext rfl (read_snd rfl)
  unfold lookup Layer.reads
  rw [hread]
  rcases (read now base m).1 with _ | ⟨status, fields, body⟩ | ⟨contexts⟩
  · rfl
  · rfl
  · simp only
    cases layer.variantKey base headers contexts with
    | none => rfl
    | some key =>
      simp only
      rw [hread]
      cases (read now key (m.get now base).2).1 <;> rfl

theorem store_calls (f : Filing) (now : UInt64) (base : String) (m : Memory) :
    store now base f.key f.about.contexts f.record f.about m =
      BinCall.after Memory.step (f.calls now base m) m := by
  have hwrite : ∀ (key : String) (record : Record) (m : Memory), write now key record f.about m =
      (true, m.set key ⟨record.encode, f.about.tags, f.about.maxAge, now⟩) := fun _ _ _ => rfl
  unfold store Filing.calls
  rw [hwrite]
  simp only
  by_cases hk : f.key = base
  · rw [if_pos hk, if_neg (by simp [hk])]
    rfl
  · rw [if_neg hk, if_pos ⟨trivial, hk⟩, hwrite]
    rfl

/-- A visit does to a bin in memory what its calls do. -/
theorem visit_calls (layer : Layer) (v : Visit) (m : Memory) :
    (layer.visit v m).2 = BinCall.after Memory.step (layer.asks v m) m := by
  by_cases hget : v.request.method = "GET"
  · have hlookup := lookup_calls layer v.now v.address v.request.headers m
    cases hl : (lookup layer v.now v.address v.request.headers m).1 with
    | some response => rw [visit_hit hget (Prod.ext hl rfl), asks_hit hget (Prod.ext hl rfl), hlookup]
    | none =>
      rw [visit_ran hget (Prod.ext hl rfl), asks_ran hget (Prod.ext hl rfl), BinCall.after_append, ← hlookup]
      cases layer.filing? v with
      | none => rfl
      | some f => exact store_calls f v.finished v.address _
  · rw [visit_passed hget, asks_passed hget]
    rfl

/-! ## Naming a tag of a page -/

/-- Whatever a visit writes has exactly the tags that were reported to it, and those that the fields of the
handler state. On a bin in memory, what it wrote is not fresh anymore once one of these tags was invalidated, until
the same key is written again. -/
theorem written_tags (layer : Layer) (v : Visit) :
    (∀ (β : Type) [Storage β] (bin : β) (key : String) (item : Item),
      (key, item) ∈ BinCall.written (layer.asks v bin) → ∀ t, t ∈ item.tags ↔
        Collector.Reported t v.handler.reports ∨ CacheHeaders.States v.handler.response.headers t) ∧
    ∀ (name : String) (capacity : Nat) (earlier between later : List BinCall) (key : String) (item : Item)
      (t : Tag) (tags : TagSet) (now : UInt64),
      let start := BinCall.after Memory.step earlier (Memory.new name capacity)
      let since := between ++ .invalidate tags :: later
      Memory.spent (earlier ++ layer.asks v start ++ since) (Memory.new name capacity) < 2 ^ 64 →
      (key, item) ∈ BinCall.written (layer.asks v start) →
      (Collector.Reported t v.handler.reports ∨ CacheHeaders.States v.handler.response.headers t) → t ∈ tags →
      (∀ c ∈ between ++ later, ∀ i, ¬ c.Writes key i) →
      ((BinCall.after Memory.step since (layer.visit v start).2).get now key).1.isFresh = false := by
  constructor
  · exact fun β _ bin key item h t => (mem_tags_written h).2
  · intro name capacity earlier between later key item t tags now start since hn hwritten ht htags hother
    have hmeets : ∀ i, (key, i) ∈ BinCall.written (layer.asks v start) → i.tags.Meets tags :=
      fun i hi => ⟨t, (mem_tags_written hi).2.mpr ht, htags⟩
    have hpage : (BinCall.after Shelf.step (layer.asks v start)
        (BinCall.after Shelf.step earlier (.empty (roomFor capacity)))).Vouched
        fun k i => k = key → i.tags.Meets tags :=
      Shelf.vouched_of_set (BinCall.mem_written_iff.mp hwritten) (mem_tags_written (t := t) hwritten).1
        fun c hc i hw => hmeets i (BinCall.mem_written_iff.mpr (hw.1 ▸ hc))
    have hall : ∀ calls, BinCall.after Memory.step (earlier ++ layer.asks v start ++ calls)
        (Memory.new name capacity) = BinCall.after Memory.step calls (layer.visit v start).2 := by
      intro calls
      rw [BinCall.after_append, BinCall.after_append, visit_calls]
    have hshelf : ∀ calls s, BinCall.after Shelf.step (earlier ++ layer.asks v start ++ calls) s =
        BinCall.after Shelf.step calls (BinCall.after Shelf.step (layer.asks v start)
          (BinCall.after Shelf.step earlier s)) := by
      intro calls s
      rw [BinCall.after_append, BinCall.after_append]
    rw [← hall, Memory.get_eq, Memory.view_run hn, hshelf]
    exact Shelf.not_fresh_invalidated hpage hother now

/-- A page for an hour. Its handler names a tag in a field, next to an age that is no number. -/
def misdated : Handled :=
  ⟨hourly.reports, 200, [("x-cache-tags", .ofText "node:5"), ("cache_max_age", .ofText "soon")], .ofBytes []⟩

/-- The page is stored without the tag in the field. -/
theorem tag_is_ignored : ¬ ∀ (v : Visit) (key : String) (item : Item) (value : Bytes) (text : String) (t : Tag),
    (key, item) ∈ BinCall.written ((Layer.new "page").asks v (Memory.new "page" 8)) →
    (CacheHeaders.tagsName, value) ∈ v.handler.response.headers → Headers.text? value = some text →
    t.text.toList ∈ text.toList.splitOnP Text.isBlank → t ∈ item.tags := by
  intro hall
  have hne : Collector.collect misdated.reports ≠ .empty :=
    fun he => absurd (congrArg Metadata.maxAge he) (by decide)
  have hkeeps : (Layer.new "page").Keeps (atRoot misdated) (Collector.collect misdated.reports) :=
    ⟨cacheability_of_silent rfl hne, rfl, rfl, nofun, ⟨rfl, by decide, by decide⟩⟩
  obtain ⟨f, hf, habout⟩ := exists_filing? hkeeps
  have hpage : (f.key, f.item 0) ∈
      BinCall.written ((Layer.new "page").asks (atRoot misdated) (Memory.new "page" 8)) := by
    rw [written_ran rfl rfl, hf]
    simp only [written_calls]
    exact List.mem_cons_self
  have ht := hall (atRoot misdated) f.key (f.item 0) (.ofText "node:5") "node:5" ⟨"node:5", by decide⟩ hpage
    (by decide) (by decide) (by decide)
  rw [show (f.item 0).tags = _ from congrArg Metadata.tags habout, Collector.mem_tags_collect] at ht
  simp [misdated, hourly, Collector.Reported, Collector.ReportedBy, TagSet.empty, TagSet.mem_def] at ht

end Page
end TaggedCache
