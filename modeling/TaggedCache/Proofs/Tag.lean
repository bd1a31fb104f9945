import Mathlib.Data.List.Sort
import Mathlib.Data.Set.List
import TaggedCache.Proofs.Outcome
import TaggedCache.Proofs.Words
import TaggedCache.TagSet

/-!
# Tags from texts

A list makes a set of tags exactly when each of its elements makes a tag (`ofListFrom_eq_ok_iff`), so texts that
are not empty make one (`ofTexts_of_ne`). The words of a text always do (`ofTexts_words`). Tags without white
space are the words of their joined text (`ofTexts_words_join`).
-/

namespace TaggedCache

/-- A set is determined by its tags. -/
theorem TagSet.eq_of_mem_iff {s u : TagSet} (h : ∀ t, t ∈ s ↔ t ∈ u) : s = u := by
  have : Std.Irrefl (α := Tag) (· < ·) := ⟨Tag.lt_irrefl⟩
  have : Std.Antisymm (α := Tag) (· < ·) :=
    ⟨fun a b hab hba => absurd (Tag.lt_trans hab hba) (Tag.lt_irrefl a)⟩
  obtain ⟨ts, hts⟩ := s
  obtain ⟨us, hus⟩ := u
  congr 1
  exact hts.eq_of_mem_iff hus h

/-! ## Tags of a list -/

namespace Tag

variable {index : Nat} {ts : List Tag}

/-- When a value makes a tag exactly if it is the form of this tag, a list makes the tags of which it is the
forms. -/
theorem listFrom_eq_ok_iff {α : Type} {tag : Nat → α → Except Fault Tag} {form : Tag → α}
    (h : ∀ i x t, tag i x = .ok t ↔ form t = x) {xs : List α} :
    listFrom tag index xs = .ok ts ↔ ts.map form = xs := by
  induction xs generalizing index ts with
  | nil => simp [listFrom, eq_comm]
  | cons x rest ih =>
    constructor
    · intro hok
      obtain ⟨t, ht, hok⟩ := bind_ok hok
      obtain ⟨us, hus, hok⟩ := bind_ok hok
      cases hok
      rw [List.map_cons, (h index x t).mp ht, ih.mp hus]
    · intro hform
      obtain ⟨t, us, rfl, ht, hus⟩ := List.map_eq_cons_iff.mp hform
      rw [listFrom, (h index x t).mpr ht, ih.mpr hus]
      rfl

theorem ofText_eq_ok_iff {text : String} {t : Tag} : ofText index text = .ok t ↔ t.text = text := by
  rw [ofText]
  split
  · next h => simp [h, t.text_ne_empty]
  · next h =>
    rw [Except.ok.injEq]
    exact ⟨fun ht => ht ▸ rfl, fun ht => eq_of_text_eq ht.symm⟩

theorem ofValue_eq_ok_iff {v : Json} {t : Tag} : ofValue index v = .ok t ↔ .text t.text = v := by
  cases v with
  | text text => rw [ofValue, ofText_eq_ok_iff, Json.text.injEq]
  | _ => exact iff_of_false nofun nofun

/-- Tags can be had for a list exactly when they can for each of its elements. -/
theorem exists_map_iff {α : Type} {form : Tag → α} {xs : List α} :
    (∃ ts : List Tag, ts.map form = xs) ↔ ∀ x ∈ xs, ∃ t, form t = x :=
  (Set.ext_iff.mp (Set.range_list_map form) xs)

end Tag

namespace TagSet

/-- The set of the tags of a list is there exactly when each element is the form of a tag, and has these tags. -/
theorem ofListFrom_eq_ok_iff {α : Type} {tag : Nat → α → Except Fault Tag} {form : Tag → α} {xs : List α}
    {s : TagSet} (h : ∀ i x t, tag i x = .ok t ↔ form t = x) :
    (do .ok (ofList (← Tag.listFrom tag 0 xs)) : Except Fault TagSet) = .ok s ↔
      (∀ x ∈ xs, ∃ t, form t = x) ∧ ∀ t, t ∈ s ↔ form t ∈ xs := by
  have hinj : Function.Injective form := fun t u he =>
    Except.ok.inj (((h 0 _ t).mpr he).symm.trans ((h 0 _ u).mpr rfl))
  rw [← Tag.exists_map_iff]
  constructor
  · intro hok
    obtain ⟨ts, hts, hok⟩ := bind_ok hok
    cases hok
    obtain rfl := (Tag.listFrom_eq_ok_iff h).mp hts
    exact ⟨⟨ts, rfl⟩, fun t => mem_ofList.trans (List.mem_map_of_injective hinj).symm⟩
  · rintro ⟨⟨ts, rfl⟩, hs⟩
    rw [(Tag.listFrom_eq_ok_iff h).mpr rfl]
    have hset : ofList ts = s := by
      refine eq_of_mem_iff fun t => ?_
      rw [mem_ofList, hs, List.mem_map_of_injective hinj]
    exact congrArg _ hset

theorem ofTexts_of_ne {texts : List String} (h : ∀ t ∈ texts, t ≠ "") :
    ∃ tags, ofTexts texts = .ok tags ∧ ∀ t, t ∈ tags ↔ t.text ∈ texts := by
  have hform : ∀ text ∈ texts, ∃ t : Tag, t.text = text := fun text ht => ⟨⟨text, h text ht⟩, rfl⟩
  obtain ⟨ts, rfl⟩ := Tag.exists_map_iff.mpr hform
  have hmem : ∀ t, t ∈ ofList ts ↔ t.text ∈ ts.map (·.text) := fun t => by
    rw [mem_ofList, List.mem_map_of_injective fun _ _ => Tag.eq_of_text_eq]
  exact ⟨ofList ts, (ofListFrom_eq_ok_iff fun _ _ _ => Tag.ofText_eq_ok_iff).mpr ⟨hform, hmem⟩, hmem⟩

end TagSet

/-- The words of a text always make a set of tags. -/
theorem TagSet.ofTexts_words (cs : List Char) :
    ∃ tags, ofTexts ((Text.words cs).map String.ofList) = .ok tags ∧
      ∀ t, t ∈ tags ↔ t.text.toList ∈ cs.splitOnP Text.isBlank := by
  have hne : ∀ w ∈ (Text.words cs).map String.ofList, w ≠ "" := by
    intro w hw he
    obtain ⟨word, hword, rfl⟩ := List.mem_map.mp hw
    rw [Text.words_eq] at hword
    have hnil : word = [] := by simpa using congrArg String.toList he
    simp [hnil] at hword
  obtain ⟨tags, htags, hmem⟩ := ofTexts_of_ne hne
  refine ⟨tags, htags, fun t => ?_⟩
  have ht : t.text.toList ≠ [] := by simpa using t.text_ne_empty
  rw [hmem, Text.words_eq, List.mem_map]
  constructor
  · rintro ⟨word, hword, he⟩
    rw [← he, String.toList_ofList]
    exact (List.mem_filter.mp hword).1
  · intro hword
    exact ⟨t.text.toList, List.mem_filter.mpr ⟨hword, by simpa using ht⟩, String.ofList_toList⟩

namespace TagSet

variable {tags : TagSet}

theorem isEmpty_iff : tags.isEmpty = true ↔ tags = .empty := by
  obtain ⟨ts, hts⟩ := tags
  simp [isEmpty, empty]

theorem toList_join (tags : TagSet) :
    (tags.join " ").toList = Text.joinChars [' '] (tags.toList.map fun t => t.text.toList) := by
  rw [join, Text.join, String.toList_ofList, texts, List.map_map]
  rfl

/-- What holds of the blank holds all over the joined tags when it holds all over each of them. -/
theorem forall_join {P : Char → Prop} (hblank : P ' ') :
    (∀ c ∈ (tags.join " ").toList, P c) ↔ ∀ t ∈ tags, ∀ c ∈ t.text.toList, P c := by
  rw [toList_join]
  constructor
  · exact fun h t ht c hc => h c (Text.subset_joinChars (List.mem_map_of_mem ht) hc)
  · intro h c hc
    rcases Text.mem_joinChars hc with hc | ⟨cs, hcs, hc⟩
    · rw [List.mem_singleton.mp hc]
      exact hblank
    · obtain ⟨t, ht, rfl⟩ := List.mem_map.mp hcs
      exact h t ht c hc

/-- Tags without white space come back when their joined text is split at white space. -/
theorem splitOnP_join (h : ∀ t ∈ tags, ∀ c ∈ t.text.toList, Text.isBlank c = false) (hne : tags.toList ≠ []) :
    (tags.join " ").toList.splitOnP Text.isBlank = tags.toList.map fun t => t.text.toList := by
  rw [toList_join, Text.splitOnP_joinChars (by decide) (by simpa using hne)]
  intro cs hcs
  obtain ⟨u, hu, rfl⟩ := List.mem_map.mp hcs
  exact h u hu

/-- Tags without white space are the words of their joined text. -/
theorem ofTexts_words_join (h : ∀ t ∈ tags, ∀ c ∈ t.text.toList, Text.isBlank c = false) :
    ofTexts ((Text.words (tags.join " ").toList).map String.ofList) = .ok tags := by
  obtain ⟨read, hread, hmem⟩ := ofTexts_words (tags.join " ").toList
  rw [hread]
  congr 1
  refine eq_of_mem_iff fun t => ?_
  rw [hmem]
  have hne : t.text.toList ≠ [] := by simpa using t.text_ne_empty
  by_cases hnil : tags.toList = []
  · simp [toList_join, hnil, hne, mem_def, Text.joinChars]
  · rw [splitOnP_join h hnil]
    simp only [List.mem_map, String.toList_inj, mem_def]
    constructor
    · rintro ⟨u, hu, he⟩
      exact Tag.eq_of_text_eq he ▸ hu
    · exact fun ht => ⟨t, ht, rfl⟩

end TagSet

end TaggedCache
