import TaggedCache.Proofs.KeyPart
import TaggedCache.Proofs.PageCacheability

/-!
# Cacheability on the wire

What is written into header fields is read again: the age always (`readOr_maxAgeValue`), the key and the tags when
they are ASCII (`readOr_keysValue`, `readOr_tagsValue`). Cacheability of visible ASCII tags comes back whole from
whatever fields it was put on (`read_apply_ofMetadata`). Everything else that can be written can be read exactly
when it is ASCII (`readable_iff_ascii`): a tag with an accent is written and then refused (`accent_not_readable`).
-/

namespace TaggedCache

/-! ## Ages -/

namespace Numeral

variable {i : Int} {c : Char}

theorem readFrom_of_valueFrom? {limit s n : Nat} {overflow : Fault} {ds : List Char}
    (h : valueFrom? s ds = some n) (hn : n ≤ limit) : readFrom limit overflow s ds = .ok n := by
  induction ds generalizing s with
  | nil => exact congrArg Except.ok (Option.some.inj h)
  | cons c rest ih =>
    cases hd : digitValue? c with
    | none => simp [valueFrom?, hd] at h
    | some d =>
      simp only [valueFrom?, hd] at h
      simp only [readFrom, hd]
      rw [if_pos (Nat.le_trans (le_of_valueFrom? h) hn)]
      exact ih h

/-- A written integer of 64 bits reads back. -/
theorem readInt_ofInt (hlo : -2 ^ 63 ≤ i) (hhi : i < 2 ^ 63) : readInt 64 (ofInt i) = .ok i := by
  have hvalue := valueFrom?_digits i.natAbs
  have hpow : negatives 64 = 2 ^ 63 := rfl
  obtain ⟨c, word, hc⟩ := List.exists_cons_of_ne_nil (digits_ne_nil i.natAbs)
  have hdigit := digits_all i.natAbs c (by simp [hc])
  unfold ofInt
  split
  · next hneg =>
    have hread : (-(i.natAbs : Int)) = i := by omega
    rw [hc] at hvalue ⊢
    rw [readInt, readFrom_of_valueFrom? hvalue (by omega)]
    · exact congrArg Except.ok hread
    · exact nofun
  · next hneg =>
    have hread : (i.natAbs : Int) = i := by omega
    have hplus : c ≠ '+' := by
      rintro rfl
      exact absurd hdigit (by decide)
    have hminus : c ≠ '-' := by
      rintro rfl
      exact absurd hdigit (by decide)
    rw [hc] at hvalue ⊢
    rw [readInt, readFrom_of_valueFrom? hvalue (by omega)]
    · exact congrArg Except.ok hread
    · exact nofun
    · exact fun h => hplus (List.cons.inj h).1
    · exact fun h => hminus (List.cons.inj h).1
    · exact fun _ h => hminus (List.cons.inj h).1
    · exact fun _ h => hplus (List.cons.inj h).1

theorem mem_ofInt (h : c ∈ ofInt i) : c = '-' ∨ ∃ d < 10, c = digit d := by
  unfold ofInt at h
  split at h
  · rcases List.mem_cons.mp h with rfl | h
    · exact .inl rfl
    · exact .inr (exists_digit (digits_all _ c h))
  · exact .inr (exists_digit (digits_all _ c h))

theorem ofInt_plain (h : c ∈ ofInt i) : Headers.Plain c := by
  have hdigit : ∀ d < 10, Headers.Plain (digit d) := by decide
  rcases mem_ofInt h with rfl | ⟨d, hd, rfl⟩
  · decide
  · exact hdigit d hd

theorem ofInt_not_blank (h : c ∈ ofInt i) : Text.isBlank c = false := by
  have hdigit : ∀ d < 10, Text.isBlank (digit d) = false := by decide
  rcases mem_ofInt h with rfl | ⟨d, hd, rfl⟩
  · decide
  · exact hdigit d hd

end Numeral

namespace CacheHeaders

variable {m : Metadata} {a : CacheHeaders} {name s : String} {bs : Bytes} {tags : TagSet} {keys : List KeyPart}
  {field : Option Bytes}

/-! ## One field -/

theorem value_eq_ok_iff : value name s = .ok bs ↔ Headers.ofText? s = some bs := by
  unfold value
  split
  · next hs => simp [hs]
  · next hs => simp [hs]

/-- A written value has a text when the text is ASCII. -/
theorem text_of_ofText? (h : Headers.ofText? s = some bs) (name : String) :
    text name bs = if Text.Ascii s then .ok s else .error (.badHeader name .unprintable) := by
  rw [text, Headers.text?_of_ofText? h]
  by_cases hs : Text.Ascii s <;> simp [hs]

theorem readOr_maxAgeValue (age : MaxAge) : readOr .zero readMaxAge (maxAgeValue age) = .ok age := by
  unfold maxAgeValue
  split
  · next hzero =>
    have hage : age = .zero := of_decide_eq_true hzero
    rw [hage]
    rfl
  · have ⟨hlo, hhi⟩ := age.toInt_bounds
    have hplain : ∀ c ∈ (String.ofList (Numeral.ofInt age.toInt)).toList, Headers.Plain c := by
      rw [String.toList_ofList]
      exact fun c => Numeral.ofInt_plain
    have hread : Numeral.readInt 64 (Numeral.ofInt age.toInt) = .ok age.toInt :=
      Numeral.readInt_ofInt (by omega) (by omega)
    rw [readOr, readMaxAge, text_of_ofText? (Headers.ofText?_of_plain hplain),
      if_pos (Headers.ascii_of_plain hplain)]
    simp only [bind, Except.bind, String.toList_ofList, Text.trim_eq_self fun c => Numeral.ofInt_not_blank,
      hread, MaxAge.ofInt_toInt]

theorem tagsValue_ok (h : tagsValue tags = .ok field) : (tags = .empty ∧ field = none) ∨
    tags ≠ .empty ∧ ∃ bs, Headers.ofText? (tags.join " ") = some bs ∧ field = some bs := by
  unfold tagsValue at h
  split at h
  · next hempty => exact .inl ⟨TagSet.isEmpty_iff.mp hempty, (Except.ok.inj h).symm⟩
  · next hempty =>
    obtain ⟨bs, hbs, h⟩ := bind_ok h
    exact .inr ⟨mt TagSet.isEmpty_iff.mpr hempty, bs, value_eq_ok_iff.mp hbs, (Except.ok.inj h).symm⟩

theorem keysValue_ok (h : keysValue keys = .ok field) : (keys = [] ∧ field = none) ∨
    keys ≠ [] ∧ ∃ bs, Headers.ofText? (KeyPart.listToJson keys).compact = some bs ∧ field = some bs := by
  unfold keysValue at h
  split at h
  · next hnil => exact .inl ⟨hnil, (Except.ok.inj h).symm⟩
  · next hnil =>
    obtain ⟨bs, hbs, h⟩ := bind_ok h
    exact .inr ⟨hnil, bs, value_eq_ok_iff.mp hbs, (Except.ok.inj h).symm⟩

/-- From a written field the words of the joined tags are read, if these are ASCII. -/
theorem readOr_tagsValue (h : tagsValue tags = .ok field) : readOr .empty readTags field =
    if Text.Ascii (tags.join " ") then TagSet.ofTexts ((Text.words (tags.join " ").toList).map String.ofList)
    else .error (.badHeader tagsName .unprintable) := by
  rcases tagsValue_ok h with ⟨rfl, rfl⟩ | ⟨-, bs, hbs, rfl⟩
  · rfl
  · rw [readOr, readTags, text_of_ofText? hbs]
    by_cases hs : Text.Ascii (tags.join " ")
    · rw [if_pos hs, if_pos hs]
      rfl
    · rw [if_neg hs, if_neg hs]
      rfl

/-- From a written field the key is read, if it is ASCII. -/
theorem readOr_keysValue (h : keysValue keys = .ok field) : readOr [] readKeys field =
    if Text.Ascii (KeyPart.listToJson keys).compact then .ok keys
    else .error (.badHeader keysName .unprintable) := by
  rcases keysValue_ok h with ⟨rfl, rfl⟩ | ⟨-, bs, hbs, rfl⟩
  · rfl
  · rw [readOr, readKeys, text_of_ofText? hbs]
    by_cases hs : Text.Ascii (KeyPart.listToJson keys).compact
    · rw [if_pos hs, if_pos hs]
      simp only [bind, Except.bind, KeyPart.read_compact]
    · rw [if_neg hs, if_neg hs]
      rfl

/-! ## All fields -/

/-- What is read from applied fields does not depend on those that were there before. -/
theorem read_apply (a : CacheHeaders) (hs : Headers) : read (a.apply hs) =
    if a.isEmpty then .ok none
    else (do
      let tags ← readOr .empty readTags a.tags
      let maxAge ← readOr .zero readMaxAge a.maxAge
      let keys ← readOr [] readKeys a.keys
      .ok (some ⟨keys, tags, maxAge, true⟩)) := by
  have ⟨htags, hage, hkeys⟩ := get?_apply a hs
  unfold read
  rw [htags, hage, hkeys]

theorem ofMetadata_eq (hc : m.cacheable = true) : ofMetadata m = (do
    let tags ← tagsValue m.tags
    let keys ← keysValue m.keys
    .ok ⟨tags, maxAgeValue m.maxAge, keys⟩) := by
  rw [ofMetadata, hc, if_neg (by decide)]

/-- What is written field by field. -/
theorem ofMetadata_ok (hc : m.cacheable = true) (h : ofMetadata m = .ok a) :
    tagsValue m.tags = .ok a.tags ∧ a.maxAge = maxAgeValue m.maxAge ∧ keysValue m.keys = .ok a.keys := by
  rw [ofMetadata_eq hc] at h
  obtain ⟨tags, htags, h⟩ := bind_ok h
  obtain ⟨keys, hkeys, h⟩ := bind_ok h
  obtain rfl := Except.ok.inj h
  exact ⟨htags, rfl, hkeys⟩

/-- Nothing is written of what has no tags, no key and a zero age. -/
theorem isEmpty_ofMetadata (hc : m.cacheable = true) (h : ofMetadata m = .ok a) :
    a.isEmpty = true ↔ m.tags = .empty ∧ m.keys = [] ∧ m.maxAge = .zero := by
  have ⟨htags, hage, hkeys⟩ := ofMetadata_ok hc h
  have htags' : a.tags = none ↔ m.tags = .empty := by
    rcases tagsValue_ok htags with ⟨hm, ha⟩ | ⟨hm, bs, -, ha⟩ <;> simp [hm, ha]
  have hkeys' : a.keys = none ↔ m.keys = [] := by
    rcases keysValue_ok hkeys with ⟨hm, ha⟩ | ⟨hm, bs, -, ha⟩ <;> simp [hm, ha]
  have hage' : a.maxAge = none ↔ m.maxAge = .zero := by
    rw [hage]
    simp [maxAgeValue, MaxAge.isZero]
  simp only [isEmpty, Bool.and_eq_true, Option.isNone_iff_eq_none, htags', hage', hkeys']
  tauto

/-- Each of the three fields has the written value, or none; the other fields keep their values. -/
theorem values_apply (a : CacheHeaders) (hs : Headers) (name : String) : (a.apply hs).values name =
    if name = keysName then a.keys.toList
    else if name = maxAgeName then a.maxAge.toList
    else if name = tagsName then a.tags.toList
    else hs.values name := by
  rw [apply, Headers.values_assign, Headers.values_assign, Headers.values_assign]

/-! ## What can be written -/

/-- No tag has a character that cannot be sent, and no key the delete character. What may not be cached has no
fields, so nothing is asked of it. -/
def Writable (m : Metadata) : Prop := m.cacheable = true →
  (∀ t ∈ m.tags, ∀ c ∈ t.text.toList, Headers.Sendable c) ∧ ∀ p ∈ m.keys, ∀ c ∈ p.text.toList, c.toNat ≠ 0x7f

theorem exists_tagsValue_iff : (∃ field, tagsValue tags = .ok field) ↔
    ∀ t ∈ tags, ∀ c ∈ t.text.toList, Headers.Sendable c := by
  rw [← TagSet.forall_join (by decide), ← Headers.exists_ofText?_iff]
  constructor
  · rintro ⟨field, hfield⟩
    rcases tagsValue_ok hfield with ⟨rfl, -⟩ | ⟨-, bs, hbs, -⟩
    · exact ⟨[], by decide⟩
    · exact ⟨bs, hbs⟩
  · rintro ⟨bs, hbs⟩
    unfold tagsValue
    split
    · exact ⟨none, rfl⟩
    · exact ⟨some bs, by rw [value_eq_ok_iff.mpr hbs]; rfl⟩

theorem exists_keysValue_iff : (∃ field, keysValue keys = .ok field) ↔
    ∀ p ∈ keys, ∀ c ∈ p.text.toList, c.toNat ≠ 0x7f := by
  rw [← KeyPart.sendable_compact, ← Headers.exists_ofText?_iff]
  constructor
  · rintro ⟨field, hfield⟩
    rcases keysValue_ok hfield with ⟨rfl, -⟩ | ⟨-, bs, hbs, -⟩
    · exact ⟨.ofText "[]", by decide⟩
    · exact ⟨bs, hbs⟩
  · rintro ⟨bs, hbs⟩
    unfold keysValue
    split
    · exact ⟨none, rfl⟩
    · exact ⟨some bs, by rw [value_eq_ok_iff.mpr hbs]; rfl⟩

theorem exists_ofMetadata_iff : (∃ a, ofMetadata m = .ok a) ↔ Writable m := by
  cases hc : m.cacheable with
  | false => exact iff_of_true ⟨empty, ofMetadata_of_not_cacheable hc⟩ fun h => absurd h (by simp [hc])
  | true =>
    have hw : Writable m ↔ (∃ tags, tagsValue m.tags = .ok tags) ∧ ∃ keys, keysValue m.keys = .ok keys := by
      rw [exists_tagsValue_iff, exists_keysValue_iff]
      exact forall_prop_of_true hc
    rw [hw]
    constructor
    · rintro ⟨a, ha⟩
      obtain ⟨htags, -, hkeys⟩ := ofMetadata_ok hc ha
      exact ⟨⟨_, htags⟩, ⟨_, hkeys⟩⟩
    · rintro ⟨⟨tags, htags⟩, ⟨keys, hkeys⟩⟩
      exact ⟨⟨tags, maxAgeValue m.maxAge, keys⟩, by rw [ofMetadata_eq hc, htags, hkeys]; rfl⟩

/-! ## What can be written comes back -/

theorem exists_tagsValue (h : ∀ t ∈ tags, ∀ c ∈ t.text.toList, 0x21 ≤ c.toNat ∧ c.toNat ≤ 0x7e) :
    ∃ field, tagsValue tags = .ok field := by
  refine exists_tagsValue_iff.mpr fun t ht c hc => ?_
  have ⟨hlo, hhi⟩ := h t ht c hc
  exact .inl ⟨by omega, by omega⟩

theorem exists_keysValue (h : ∀ p ∈ keys, ∀ c ∈ p.text.toList, c.toNat < 0x7f) :
    ∃ field, keysValue keys = .ok field :=
  exists_keysValue_iff.mpr fun p hp c hc => Nat.ne_of_lt (h p hp c hc)

theorem ascii_join : Text.Ascii (tags.join " ") ↔ ∀ t ∈ tags, Text.Ascii t.text :=
  TagSet.forall_join (by decide)

/-- What was written in ASCII comes back, when no tag has white space in it. -/
theorem read_written (hs : Headers) (hc : m.cacheable = true) (h : ofMetadata m = .ok a)
    (htags : ∀ t ∈ m.tags, Text.Ascii t.text) (hkeys : ∀ p ∈ m.keys, Text.Ascii p.text)
    (hblank : ∀ t ∈ m.tags, ∀ c ∈ t.text.toList, Text.isBlank c = false) :
    read (a.apply hs) = .ok (if m.tags = .empty ∧ m.keys = [] ∧ m.maxAge = .zero then none else some m) := by
  have ⟨ht, hage, hk⟩ := ofMetadata_ok hc h
  rw [read_apply, readOr_tagsValue ht, hage, readOr_maxAgeValue, readOr_keysValue hk,
    if_pos (ascii_join.mpr htags), if_pos (KeyPart.ascii_compact.mpr hkeys), TagSet.ofTexts_words_join hblank]
  by_cases hempty : m.tags = .empty ∧ m.keys = [] ∧ m.maxAge = .zero
  · rw [if_pos hempty, if_pos ((isEmpty_ofMetadata hc h).mpr hempty)]
  · rw [if_neg hempty, if_neg (mt (isEmpty_ofMetadata hc h).mp hempty), ← hc]
    rfl

/-- Tags of visible ASCII and a key of ASCII without the delete character are always written and come back whole,
with the age, whatever the fields were before. Only what has no tags, no key and a zero age leaves no trace. Of the
three fields no earlier value is left, and the other fields keep theirs. -/
theorem read_apply_ofMetadata (hs : Headers) (hc : m.cacheable = true)
    (htags : ∀ t ∈ m.tags, ∀ c ∈ t.text.toList, 0x21 ≤ c.toNat ∧ c.toNat ≤ 0x7e)
    (hkeys : ∀ p ∈ m.keys, ∀ c ∈ p.text.toList, c.toNat < 0x7f) :
    ∃ a, ofMetadata m = .ok a ∧
      read (a.apply hs) =
        .ok (if m.tags = .empty ∧ m.keys = [] ∧ m.maxAge = .zero then none else some m) ∧
      (a.apply hs).values tagsName = a.tags.toList ∧ (a.apply hs).values maxAgeName = a.maxAge.toList ∧
      (a.apply hs).values keysName = a.keys.toList ∧
      ∀ name ∉ [tagsName, maxAgeName, keysName], (a.apply hs).values name = hs.values name := by
  obtain ⟨tags, ht⟩ := exists_tagsValue htags
  obtain ⟨keys, hk⟩ := exists_keysValue hkeys
  have hok : ofMetadata m = .ok ⟨tags, maxAgeValue m.maxAge, keys⟩ := by
    rw [ofMetadata_eq hc, ht, hk]
    rfl
  have htascii : ∀ t ∈ m.tags, Text.Ascii t.text := by
    intro t ht c hc
    have := htags t ht c hc
    omega
  have hkascii : ∀ p ∈ m.keys, Text.Ascii p.text := by
    intro p hp c hc
    have := hkeys p hp c hc
    omega
  have hblank : ∀ t ∈ m.tags, ∀ c ∈ t.text.toList, Text.isBlank c = false := by
    intro t ht c hc
    have ⟨hlo, hhi⟩ := htags t ht c hc
    have hvisible := Text.forall_of_lt (P := fun c => 0x21 ≤ c.toNat → Text.isBlank c = false) (by decide)
      (Nat.lt_succ_of_le hhi)
    exact hvisible hlo
  refine ⟨_, hok, read_written hs hc hok htascii hkascii hblank, ?_, ?_, ?_, ?_⟩
  · rw [values_apply, if_neg (by decide), if_neg (by decide), if_pos rfl]
  · rw [values_apply, if_neg (by decide), if_pos rfl]
  · rw [values_apply, if_pos rfl]
  · intro name hname
    simp only [List.mem_cons, List.not_mem_nil, or_false, not_or] at hname
    obtain ⟨htags, hage, hkeys⟩ := hname
    rw [values_apply, if_neg hkeys, if_neg hage, if_neg htags]

/-- A key with a quote and a line break, and two tags, for two minutes. -/
def quoted : Metadata where
  keys := [.literal "a \"node\"\n", .context "languages"]
  tags := .ofList [⟨"node:7", by decide⟩, ⟨"node_list", by decide⟩]
  maxAge := .seconds 120
  cacheable := true

/-- Fields of an earlier annotation, one of them twice, around another field. -/
def annotatedBefore : Headers :=
  [("x-cache-tags", .ofText "stale:tag"), ("content-type", .ofText "text/html"),
    ("x-cache-tags", .ofText "second"), ("cache_keys", .ofText "[]")]

theorem read_apply_ofMetadata_quoted :
    quoted.cacheable = true ∧ (∀ t ∈ quoted.tags, ∀ c ∈ t.text.toList, 0x21 ≤ c.toNat ∧ c.toNat ≤ 0x7e) ∧
      (∀ p ∈ quoted.keys, ∀ c ∈ p.text.toList, c.toNat < 0x7f) ∧
      ∃ a, ofMetadata quoted = .ok a ∧ read (a.apply annotatedBefore) = .ok (some quoted) ∧
        (a.apply annotatedBefore).values tagsName = a.tags.toList ∧
        (a.apply annotatedBefore).values "content-type" = [.ofText "text/html"] := by
  have hvisible : ∀ t ∈ quoted.tags.toList, t.text.toList.all fun c => 0x21 ≤ c.toNat ∧ c.toNat ≤ 0x7e := by
    decide
  have hplain : ∀ p ∈ quoted.keys, p.text.toList.all (fun c => c.toNat < 0x7f) := by decide
  have htags := fun t ht => Text.forall_of_all (hvisible t ht)
  have hkeys := fun p hp => Text.forall_of_all (hplain p hp)
  obtain ⟨a, hok, hread, hvalues, -, -, hother⟩ := read_apply_ofMetadata annotatedBefore rfl htags hkeys
  exact ⟨rfl, htags, hkeys, a, hok, hread, hvalues, hother "content-type" (by decide)⟩

/-- What was written can be read when its tags and its key are ASCII, and only then. -/
theorem readable_iff_ascii (hs : Headers) (h : ofMetadata m = .ok a) : (∃ said, read (a.apply hs) = .ok said) ↔
    (m.cacheable = true → (∀ t ∈ m.tags, Text.Ascii t.text) ∧ ∀ p ∈ m.keys, Text.Ascii p.text) := by
  cases hc : m.cacheable with
  | false =>
    rw [ofMetadata_of_not_cacheable hc] at h
    obtain rfl := Except.ok.inj h
    exact iff_of_true ⟨none, read_empty⟩ nofun
  | true =>
    have ⟨htags, hage, hkeys⟩ := ofMetadata_ok hc h
    rw [← ascii_join, ← KeyPart.ascii_compact, read_apply, readOr_tagsValue htags, hage, readOr_maxAgeValue,
      readOr_keysValue hkeys]
    split
    · next hempty =>
      obtain ⟨ht, hk, -⟩ := (isEmpty_ofMetadata hc h).mp hempty
      rw [ht, hk]
      exact iff_of_true ⟨none, rfl⟩ fun _ => by decide
    · obtain ⟨read, hread, -⟩ := TagSet.ofTexts_words (m.tags.join " ").toList
      rw [hread]
      by_cases ht : Text.Ascii (m.tags.join " ")
      · by_cases hk : Text.Ascii (KeyPart.listToJson m.keys).compact
        · rw [if_pos ht, if_pos hk]
          exact iff_of_true ⟨_, rfl⟩ fun _ => ⟨ht, hk⟩
        · rw [if_pos ht, if_neg hk]
          exact iff_of_false nofun fun hall => hk (hall rfl).2
      · rw [if_neg ht]
        exact iff_of_false nofun fun hall => ht (hall rfl).1

/-- One tag with an accent. -/
def accented : Metadata := ⟨[], .ofList [⟨"é", by decide⟩], .permanent, true⟩

def accentedFields : CacheHeaders := ⟨some [0xc3, 0xa9], maxAgeValue .permanent, none⟩

theorem ofMetadata_accented : ofMetadata accented = .ok accentedFields := by
  have htags : tagsValue accented.tags = .ok (some [0xc3, 0xa9]) := by decide
  rw [ofMetadata_eq rfl, htags]
  rfl

theorem readable_iff_ascii_accented : ofMetadata accented = .ok accentedFields ∧ accented.cacheable = true ∧
    ¬ (∀ t ∈ accented.tags, Text.Ascii t.text) ∧ ¬ ∃ said, read (accentedFields.apply []) = .ok said := by
  have hnot : ¬ ∀ t ∈ accented.tags.toList, Text.Ascii t.text := by decide
  have hiff := readable_iff_ascii [] ofMetadata_accented
  exact ⟨ofMetadata_accented, rfl, hnot, fun h => hnot (hiff.mp h rfl).1⟩

/-- A tag without white space can be written and then not be read. -/
theorem accent_not_readable : ¬ ∀ (m : Metadata) (a : CacheHeaders) (hs : Headers), m.cacheable = true →
    (∀ t ∈ m.tags, ∀ c ∈ t.text.toList, Text.isBlank c = false) → ofMetadata m = .ok a →
    ∃ said, read (a.apply hs) = .ok said := by
  intro hall
  have hsolid : ∀ t ∈ accented.tags.toList, t.text.toList.all (fun c => Text.isBlank c = false) := by decide
  have hblank := fun t ht => Text.forall_of_all (hsolid t ht)
  have hread : read (accentedFields.apply []) = .error (.badHeader tagsName .unprintable) := by decide
  obtain ⟨said, hsaid⟩ := hall accented accentedFields [] rfl hblank ofMetadata_accented
  rw [hread] at hsaid
  cases hsaid

end CacheHeaders
end TaggedCache
