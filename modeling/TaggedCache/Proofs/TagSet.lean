import Mathlib.Data.List.Destutter
import Mathlib.Data.String.Basic
import Mathlib.Tactic.SplitIfs
import TaggedCache.Proofs.Composition
import TaggedCache.Proofs.Json
import TaggedCache.Proofs.Tag

/-!
# Sets of tags are sets

However a set of tags comes about, its texts ascend by their bytes and none is empty (`Lists`). It is the sorted
list of what went in, without repetitions (`toList_eq_canonical`), and the walk of a union ends where the merge of
its two sets does (`union_eq_merge`). So a set is known by its texts, and a merge depends on the texts that are in
its sets and on nothing else.
-/

namespace TaggedCache

/-! ## Texts and their bytes -/

namespace Bytes

/-- Numbers of 21 bits are ordered by their digits to the base 64, the most significant one first. -/
theorem sextets_lt {m n : Nat} (h : m < n) (hn : n < 2 ^ 21) :
    m / 262144 % 8 < n / 262144 % 8 ∨ m / 262144 % 8 = n / 262144 % 8 ∧
      (m / 4096 % 64 < n / 4096 % 64 ∨ m / 4096 % 64 = n / 4096 % 64 ∧
        (m / 64 % 64 < n / 64 % 64 ∨ m / 64 % 64 = n / 64 % 64 ∧ m % 64 < n % 64)) := by
  have hstep {k l : Nat} (h : k < l) : k / 64 < l / 64 ∨ k / 64 = l / 64 ∧ k % 64 < l % 64 := by omega
  have hdiv (k : Nat) : k / 64 / 64 = k / 4096 ∧ k / 4096 / 64 = k / 262144 := by omega
  have hlead {k : Nat} (h : k < 2 ^ 21) : k / 262144 % 8 = k / 262144 := Nat.mod_eq_of_lt (by omega)
  have h₁ := hstep h
  have h₂ := @hstep (m / 64) (n / 64)
  have h₃ := @hstep (m / 4096) (n / 4096)
  rw [(hdiv m).1, (hdiv n).1] at h₂
  rw [(hdiv m).2, (hdiv n).2] at h₃
  rw [hlead hn, hlead (h.trans hn)]
  omega

/-- A smaller character has smaller bytes, whatever follows. -/
theorem utf8EncodeChar_append_lt {c d : Char} (h : c < d) (bs cs : Bytes) :
    String.utf8EncodeChar c ++ bs < String.utf8EncodeChar d ++ cs := by
  have hlt : c.val.toNat < d.val.toNat := UInt32.lt_iff_toNat_lt.mp (Char.lt_def.mp h)
  have hd : d.val.toNat < 2 ^ 21 := by
    have := d.valid
    rw [UInt32.isValidChar, Nat.isValidChar] at this
    omega
  have hbyte {k : Nat} (h : k < 256) : (UInt8.ofNat k).toNat = k := UInt8.toNat_ofNat_of_lt' h
  simp only [String.utf8EncodeChar]
  generalize c.val.toNat = m at hlt ⊢
  generalize d.val.toNat = n at hlt hd ⊢
  by_cases hm : m ≤ 65535
  · split_ifs <;>
      simp (disch := omega) only [List.cons_append, List.nil_append, List.cons_lt_cons_iff,
        UInt8.lt_iff_toNat_lt, ← UInt8.toNat_inj, hbyte] <;>
      omega
  -- Two characters of four bytes differ in the first digit that differs.
  · simp (disch := omega) only [if_neg, List.cons_append, List.nil_append, List.cons_lt_cons_iff,
      UInt8.lt_iff_toNat_lt, ← UInt8.toNat_inj, hbyte, Nat.add_lt_add_iff_right, Nat.add_right_cancel_iff]
    rcases sextets_lt hlt hd with h | ⟨h₁, h | ⟨h₂, h | ⟨h₃, h⟩⟩⟩
    · exact .inl h
    · exact .inr ⟨h₁, .inl h⟩
    · exact .inr ⟨h₁, .inr ⟨h₂, .inl h⟩⟩
    · exact .inr ⟨h₁, .inr ⟨h₂, .inr ⟨h₃, .inl h⟩⟩⟩

theorem flatMap_utf8EncodeChar_lt {cs ds : List Char} (h : cs < ds) :
    cs.flatMap String.utf8EncodeChar < ds.flatMap String.utf8EncodeChar := by
  induction h with
  | @nil d ds =>
    have hne : String.utf8EncodeChar d ≠ [] := by
      rw [String.utf8EncodeChar]
      split_ifs <;> simp
    obtain ⟨b, bs, hbs⟩ := List.exists_cons_of_ne_nil hne
    rw [List.flatMap_cons, hbs]
    exact List.nil_lt_cons b _
  | rel h => exact utf8EncodeChar_append_lt h _ _
  | cons h ih => exact List.append_left_lt ih

/-- Texts are ordered as their bytes are. -/
theorem ofText_lt_ofText {s t : String} : ofText s < ofText t ↔ s < t := by
  have hlt {s t : String} (h : s < t) : ofText s < ofText t := by
    rw [ofText_eq_flatMap, ofText_eq_flatMap]
    exact flatMap_utf8EncodeChar_lt (String.lt_iff.mp h)
  refine ⟨fun h => ?_, hlt⟩
  rcases lt_trichotomy s t with hst | rfl | hts
  · exact hst
  · exact absurd h (List.lt_irrefl _)
  · exact absurd h (List.lt_asymm (hlt hts))

end Bytes

namespace TagSet

variable {s u : TagSet} {ts : List Tag} {t : Tag} {text : String} {p : String → Prop}

/-! ## The texts of a set -/

theorem mem_texts : text ∈ s.texts ↔ ∃ t ∈ s, t.text = text := List.mem_map

theorem text_mem_texts : t.text ∈ s.texts ↔ t ∈ s :=
  mem_texts.trans ⟨fun ⟨_, hu, he⟩ => Tag.eq_of_text_eq he ▸ hu, fun ht => ⟨t, ht, rfl⟩⟩

theorem eq_of_mem_texts_iff (h : ∀ text, text ∈ s.texts ↔ text ∈ u.texts) : s = u :=
  eq_of_mem_iff fun t => text_mem_texts.symm.trans ((h t.text).trans text_mem_texts)

/-- The texts of a set are those of a kind: they ascend by their bytes, none is empty, and no other one of
the kind is missing. -/
structure Lists (s : TagSet) (p : String → Prop) : Prop where
  ascending : (s.texts.map Bytes.ofText).Pairwise (· < ·)
  not_empty : "" ∉ s.texts
  mem_iff : ∀ text, text ∈ s.texts ↔ p text

theorem lists (h : ∀ text, text ∈ s.texts ↔ p text) : s.Lists p where
  ascending := by
    rw [texts, List.pairwise_map, List.pairwise_map]
    exact s.ascending.imp fun h => Bytes.ofText_lt_ofText.mpr h
  not_empty hempty := by
    obtain ⟨t, -, ht⟩ := mem_texts.mp hempty
    exact t.text_ne_empty ht
  mem_iff := h

/-! ## Sorting -/

/-- The tags of a list in the order of their texts, and of equal neighbours one. -/
def canonical (ts : List Tag) : List Tag :=
  (ts.mergeSort fun t u => t.text ≤ u.text).destutter (· ≠ ·)

theorem mem_destutter' {u : Tag} : t ∈ ts.destutter' (· ≠ ·) u ↔ t ∈ u :: ts := by
  induction ts generalizing u with
  | nil => rfl
  | cons v rest ih =>
    by_cases h : u = v
    · rw [List.destutter'_cons_neg rest (not_not.mpr h), ih, h]
      simp
    · rw [List.destutter'_cons_pos rest h, List.mem_cons, ih, List.mem_cons (b := u)]

theorem mem_destutter : t ∈ ts.destutter (· ≠ ·) ↔ t ∈ ts := by
  cases ts with
  | nil => rfl
  | cons u rest => exact mem_destutter'

theorem mem_canonical : t ∈ canonical ts ↔ t ∈ ts :=
  mem_destutter.trans List.mem_mergeSort

theorem ascending_canonical (ts : List Tag) : (canonical ts).Pairwise (· < ·) := by
  have : Trans (α := Tag) (· < ·) (· < ·) (· < ·) := ⟨Tag.lt_trans⟩
  have hsorted : (ts.mergeSort fun t u => t.text ≤ u.text).Pairwise fun t u => t.text ≤ u.text := by
    refine (List.pairwise_mergeSort (fun _ _ _ => ?_) (fun _ _ => ?_) ts).imp of_decide_eq_true
    · simpa using le_trans
    · simpa using le_total _ _
  have hle : (canonical ts).IsChain fun t u => t.text ≤ u.text :=
    (hsorted.sublist (List.destutter_sublist _ _)).isChain
  have hne : (canonical ts).IsChain (· ≠ ·) := List.isChain_destutter _ _
  rw [List.isChain_iff_getElem] at hle hne
  refine List.isChain_iff_pairwise.mp (List.isChain_iff_getElem.mpr fun i hi => ?_)
  exact lt_of_le_of_ne (hle i hi) fun he => hne i hi (Tag.eq_of_text_eq he)

/-- A set is the sorted list of its tags, whatever built it. -/
theorem toList_eq_canonical (h : ∀ t, t ∈ s ↔ t ∈ ts) : s.toList = canonical ts := by
  have hs : s = ⟨canonical ts, ascending_canonical ts⟩ :=
    eq_of_mem_iff fun t => (h t).trans mem_canonical.symm
  exact congrArg toList hs

/-! ## Building -/

theorem lists_ofList (ts : List Tag) : (ofList ts).Lists fun text => ∃ t ∈ ts, t.text = text :=
  lists fun _ => mem_texts.trans (exists_congr fun _ => and_congr_left' mem_ofList)

theorem lists_iff_of_not_empty (hp : ¬ p "") : s.Lists p ↔ ∀ t, t ∈ s ↔ p t.text := by
  refine ⟨fun h t => text_mem_texts.symm.trans (h.mem_iff t.text), fun h => lists fun text => ?_⟩
  rw [mem_texts]
  constructor
  · rintro ⟨t, ht, rfl⟩
    exact (h t).mp ht
  · intro htext
    have hne : text ≠ "" := fun he => hp (he ▸ htext)
    exact ⟨⟨text, hne⟩, (h ⟨text, hne⟩).mpr htext, rfl⟩

theorem ofTexts_eq_ok_iff {texts : List String} :
    ofTexts texts = .ok s ↔ "" ∉ texts ∧ s.Lists (· ∈ texts) := by
  rw [ofTexts, ofListFrom_eq_ok_iff fun _ _ _ => Tag.ofText_eq_ok_iff]
  have hvalid : (∀ text ∈ texts, ∃ t : Tag, t.text = text) ↔ "" ∉ texts := by
    constructor
    · intro h hempty
      obtain ⟨t, ht⟩ := h "" hempty
      exact t.text_ne_empty ht
    · exact fun h text htext => ⟨⟨text, fun he => h (he ▸ htext)⟩, rfl⟩
  rw [hvalid]
  exact and_congr_right fun h => (lists_iff_of_not_empty h).symm

theorem ofTexts_texts (s : TagSet) : ofTexts s.texts = .ok s := by
  have hs : s.Lists (· ∈ s.texts) := lists fun _ => Iff.rfl
  exact ofTexts_eq_ok_iff.mpr ⟨hs.not_empty, hs⟩

theorem ofValues_eq_ok_iff {values : List Json} :
    ofValues values = .ok s ↔ (∀ v ∈ values, ∃ text ≠ "", v = .text text) ∧ s.Lists (.text · ∈ values) := by
  rw [ofValues, ofListFrom_eq_ok_iff fun _ _ _ => Tag.ofValue_eq_ok_iff]
  have hvalid {v : Json} : (∃ t : Tag, .text t.text = v) ↔ ∃ text ≠ "", v = .text text :=
    ⟨fun ⟨t, ht⟩ => ⟨t.text, t.text_ne_empty, ht.symm⟩, fun ⟨text, hne, hv⟩ => ⟨⟨text, hne⟩, hv.symm⟩⟩
  simp only [hvalid]
  refine and_congr_right fun h => ?_
  have hempty : Json.text "" ∉ values := by
    intro hv
    obtain ⟨text, hne, htext⟩ := h _ hv
    exact hne (Json.text.inj htext).symm
  exact (lists_iff_of_not_empty (p := fun text => Json.text text ∈ values) hempty).symm

theorem textsOf?_eq_some_iff {v : Json} {texts : List String} :
    textsOf? v = some texts ↔ v = Json.texts texts := by
  cases v with
  | array items =>
    rw [textsOf?, Json.texts, Json.array.injEq]
    induction items generalizing texts with
    | nil => simp [eq_comm]
    | cons v rest ih => cases v <;> cases texts <;> simp [List.mapM_cons, Option.bind_eq_some_iff, ih, and_comm]
  | _ => exact iff_of_false nofun nofun

theorem ofJson?_eq_some_iff {v : Json} {made : Except Fault TagSet} :
    ofJson? v = some made ↔ ∃ texts, v = .texts texts ∧ ofTexts texts = made := by
  simp only [ofJson?, Option.map_eq_some_iff, textsOf?_eq_some_iff]

/-- A set reads back from its JSON form. -/
theorem ofJson?_toJson (s : TagSet) : (Json.readBytes? s.toJson.bytes).bind ofJson? = some (.ok s) := by
  rw [toJson, Json.readBytes?_bytes (.texts s.texts), Option.bind_some, ofJson?_eq_some_iff]
  exact ⟨s.texts, rfl, ofTexts_texts s⟩

theorem text_under (stem : String) (suffix : Tag.Suffix) :
    (Tag.under stem suffix).text = stem ++ ":" ++ suffix.toText := by
  rw [← String.toList_inj]
  simp [Tag.under, Tag.Suffix.toText]

theorem lists_ofFamily (stem : String) (suffixes : List Tag.Suffix) :
    (ofFamily stem suffixes).Lists fun text => ∃ x ∈ suffixes, stem ++ ":" ++ x.toText = text := by
  refine lists fun text => ?_
  rw [ofFamily, (lists_ofList _).mem_iff, Tag.family]
  simp only [List.mem_map, exists_exists_and_eq_and, text_under]

/-! ## Merging -/

variable {sets others : List TagSet}

theorem mem_merge : t ∈ merge sets ↔ ∃ s ∈ sets, t ∈ s := mem_ofList.trans List.mem_flatMap

theorem lists_merge (sets : List TagSet) : (merge sets).Lists fun text => ∃ s ∈ sets, text ∈ s.texts := by
  refine lists fun text => ?_
  simp only [mem_texts, mem_merge]
  constructor
  · rintro ⟨t, ⟨s, hs, ht⟩, rfl⟩
    exact ⟨s, hs, t, ht, rfl⟩
  · rintro ⟨s, hs, t, ht, rfl⟩
    exact ⟨t, ⟨s, hs, ht⟩, rfl⟩

theorem toList_merge (sets : List TagSet) : (merge sets).toList = canonical (sets.flatMap toList) :=
  toList_eq_canonical fun _ => mem_ofList

/-- A merge depends on which tags are in its sets, and on nothing else. -/
theorem merge_congr (h : ∀ t, (∃ s ∈ sets, t ∈ s) ↔ ∃ s ∈ others, t ∈ s) : merge sets = merge others :=
  eq_of_mem_iff fun t => mem_merge.trans ((h t).trans mem_merge.symm)

theorem merge_map_merge (groups : List (List TagSet)) : merge (groups.map merge) = merge groups.flatten := by
  refine merge_congr fun t => ?_
  simp only [List.mem_map, exists_exists_and_eq_and, mem_merge, List.mem_flatten]
  constructor
  · rintro ⟨group, hgroup, s, hs, ht⟩
    exact ⟨s, ⟨group, hgroup, hs⟩, ht⟩
  · rintro ⟨s, ⟨group, hgroup, hs⟩, ht⟩
    exact ⟨group, hgroup, s, hs, ht⟩

/-- The walk along two sets ends where sorting all their tags does. -/
theorem union_eq_merge (s u : TagSet) : s ∪ u = merge [s, u] :=
  eq_of_mem_iff fun t => by simp [mem_union, mem_merge]

theorem extendFrom_eq_union (s u : TagSet) : s.extendFrom u = s ∪ u := by
  unfold extendFrom
  split
  · next hu => rw [isEmpty_iff.mp hu, union_empty]
  · rfl

/-- Sets of tags are finite sets. Each way to build one gives the texts that went in, in ascending order of
their bytes and none of them empty, or refuses an empty one. Union, extension and merge have the texts that are
in one of their sets, whatever the order, the grouping and the repetitions. The search for a text and the test
for a common one answer for the texts that are there. Sets with the same texts are the same set and are written
the same way. -/
theorem faithful_set (ts : List Tag) (texts : List String) (values : List Json) (v : Json) (stem : String)
    (suffixes : List Tag.Suffix) (s u : TagSet) (sets others : List TagSet) (groups : List (List TagSet))
    (m : Metadata) (text separator : String) :
    -- the sets that are built
    ((ofList ts).Lists (fun text => ∃ t ∈ ts, t.text = text) ∧ (ofList ts).toList = canonical ts) ∧
    (ofTexts texts = .ok s ↔ "" ∉ texts ∧ s.Lists (· ∈ texts)) ∧
    (ofValues values = .ok s ↔ (∀ v ∈ values, ∃ text ≠ "", v = .text text) ∧ s.Lists (.text · ∈ values)) ∧
    (ofJson? v = some (.ok s) ↔ ∃ texts, v = .texts texts ∧ "" ∉ texts ∧ s.Lists (· ∈ texts)) ∧
    (ofFamily stem suffixes).Lists (fun text => ∃ x ∈ suffixes, stem ++ ":" ++ x.toText = text) ∧
    ((merge sets).Lists (fun text => ∃ s ∈ sets, text ∈ s.texts) ∧
      (merge sets).toList = canonical (sets.flatMap toList)) ∧
    -- two sets in one
    (s ∪ u = merge [s, u] ∧ s.extendFrom u = merge [s, u] ∧ (m.addTags u).tags = m.tags.extendFrom u ∧
      (merge [s, u]).Lists fun text => text ∈ s.texts ∨ text ∈ u.texts) ∧
    -- many sets in one
    ((∀ s, s ∈ sets ↔ s ∈ others) → merge sets = merge others) ∧
    merge (groups.map merge) = merge groups.flatten ∧
    -- what a set answers
    (s.contains text = true ↔ text ∈ s.texts) ∧
    (s.intersects u = true ↔ ∃ text, text ∈ s.texts ∧ text ∈ u.texts) ∧
    -- how it is written
    ((∀ text, text ∈ s.texts ↔ text ∈ u.texts) →
      s = u ∧ s.join separator = u.join separator ∧ s.toJson.bytes = u.toJson.bytes) ∧
    (Json.readBytes? s.toJson.bytes).bind ofJson? = some (.ok s) := by
  refine ⟨⟨lists_ofList ts, toList_eq_canonical fun _ => mem_ofList⟩, ofTexts_eq_ok_iff, ofValues_eq_ok_iff,
    ?json, lists_ofFamily stem suffixes, ⟨lists_merge sets, toList_merge sets⟩, ?two, ?same,
    merge_map_merge groups, contains_iff.trans mem_texts.symm, ?common, ?written, ofJson?_toJson s⟩
  case json =>
    rw [ofJson?_eq_some_iff]
    exact exists_congr fun _ => and_congr_right fun _ => ofTexts_eq_ok_iff
  case two =>
    have hextend (s u : TagSet) := (extendFrom_eq_union s u).trans (union_eq_merge s u)
    refine ⟨union_eq_merge s u, hextend s u, (extendFrom_eq_union m.tags u).symm, lists fun text => ?_⟩
    rw [(lists_merge [s, u]).mem_iff]
    simp
  case same => exact fun h => merge_congr fun t => exists_congr fun s => and_congr_left' (h s)
  case common =>
    rw [intersects_iff]
    constructor
    · rintro ⟨t, hs, hu⟩
      exact ⟨t.text, text_mem_texts.mpr hs, text_mem_texts.mpr hu⟩
    · rintro ⟨text, hs, hu⟩
      obtain ⟨t, ht, rfl⟩ := mem_texts.mp hs
      exact ⟨t, ht, text_mem_texts.mp hu⟩
  case written =>
    intro h
    obtain rfl := eq_of_mem_texts_iff h
    exact ⟨rfl, rfl, rfl⟩

def replacement : Tag := ⟨"\uFFFD", by decide⟩

/-- Its character comes behind the replacement character, although its surrogates would come before. -/
def linear : Tag := ⟨"𐀀", by decide⟩

theorem faithful_set_repeated :
    merge [ofList [linear], ofList [replacement]] =
        merge [ofList [replacement], ofList [linear], ofList [replacement]] ∧
      ofList [linear, replacement] = ofList [replacement, linear, replacement] ∧
      (ofList [linear, replacement]).join " " = (ofList [replacement, linear, replacement]).join " " ∧
      (ofList [linear, replacement]).toJson.bytes = (ofList [replacement, linear, replacement]).toJson.bytes := by
  obtain ⟨-, -, -, -, -, -, -, hsame, -, -, -, hwritten, -⟩ :=
    faithful_set [] [] [] .null "" [] (ofList [linear, replacement]) (ofList [replacement, linear, replacement])
      [ofList [linear], ofList [replacement]]
      [ofList [replacement], ofList [linear], ofList [replacement]] [] .empty "" " "
  refine ⟨hsame fun s => ?_, hwritten fun text => ?_⟩
  · simp only [List.mem_cons, List.not_mem_nil, or_false]
    tauto
  · simp only [(lists_ofList _).mem_iff, List.mem_cons, List.not_mem_nil, or_false]
    exact exists_congr fun t => and_congr_left' (by tauto)

example : (ofList [linear, replacement, linear]).texts = ["\uFFFD", "𐀀"] := by decide

end TagSet
end TaggedCache
