import TaggedCache.Page.Layer

/-!
# Header fields on their way

Which fields an assignment leaves alone, which values come back from their text
(`ofText?_of_text?`) and which texts from their value (`text?_of_ofText?`), which texts can be a value
(`exists_ofText?_iff`), and which fields come back from a stored record (`storedHeaders?_ofResponse`).
-/

namespace TaggedCache

/-- All characters of the text are ASCII. -/
def Text.Ascii (s : String) : Prop := ∀ c ∈ s.toList, c.toNat < 128

instance (s : String) : Decidable (Text.Ascii s) := List.decidableBAll _ _

theorem Text.forall_of_all {P : Char → Prop} [DecidablePred P] {cs : List Char}
    (h : cs.all (fun c => decide (P c)) = true) : ∀ c ∈ cs, P c :=
  fun c hc => of_decide_eq_true (List.all_eq_true.mp h c hc)

theorem Text.forall_of_lt {n : Nat} {P : Char → Prop} (h : ∀ m < n, P (Char.ofNat m)) {c : Char}
    (hc : c.toNat < n) : P c := by
  have hp := h c.toNat hc
  rwa [Char.ofNat_toNat] at hp

namespace Headers

/-- The values of a name, in order. -/
def values (hs : Headers) (name : String) : List Bytes := (hs.filter fun h => h.1 = name).map (·.2)

/-- Every name is one that a message can have. -/
def Named (hs : Headers) : Prop := ∀ h ∈ hs, name? h.1 = some h.1

instance (hs : Headers) : Decidable hs.Named := inferInstanceAs (Decidable (∀ h ∈ hs, name? h.1 = some h.1))

variable {hs : Headers} {name : String} {value : Bytes}

/-! ## Fields that an assignment leaves alone -/

section Filter

variable {p : String → Bool}

theorem filter_remove (hs : Headers) (h : p name = false) :
    (hs.remove name).filter (p ·.1) = hs.filter (p ·.1) := by
  rw [remove, List.filter_filter]
  refine List.filter_congr fun e _ => ?_
  by_cases he : e.1 = name
  · simp [he, h]
  · simp [he]

theorem filter_insert (hs : Headers) (h : p name = false) :
    (hs.insert name value).filter (p ·.1) = hs.filter (p ·.1) := by
  rw [insert, List.filter_append, filter_remove hs h]
  simp [h]

theorem filter_assign (hs : Headers) (value : Option Bytes) (h : p name = false) :
    (hs.assign name value).filter (p ·.1) = hs.filter (p ·.1) := by
  cases value with
  | none => exact filter_remove hs h
  | some bs => exact filter_insert hs h

theorem filter_apply (a : CacheHeaders) (hs : Headers) (htags : p CacheHeaders.tagsName = false)
    (hage : p CacheHeaders.maxAgeName = false) (hkeys : p CacheHeaders.keysName = false) :
    (a.apply hs).filter (p ·.1) = hs.filter (p ·.1) := by
  rw [CacheHeaders.apply, filter_assign _ _ hkeys, filter_assign _ _ hage, filter_assign _ _ htags]

end Filter

theorem filter_name_insert (hs : Headers) (name : String) (value : Bytes) :
    (hs.insert name value).filter (fun h => h.1 = name) = [(name, value)] := by
  rw [insert, List.filter_append, remove, List.filter_filter]
  simp

theorem values_assign (hs : Headers) (name other : String) (value : Option Bytes) :
    (hs.assign name value).values other = if other = name then value.toList else hs.values other := by
  by_cases h : other = name
  · subst h
    rw [if_pos rfl]
    cases value with
    | none => simp [values, assign, remove]
    | some bs => rw [values, assign, filter_name_insert]; rfl
  · rw [if_neg h, values, values, filter_assign (p := fun n => n = other) hs value (by simpa using Ne.symm h)]

theorem remove_insert (hs : Headers) (name : String) (value : Bytes) :
    (hs.insert name value).remove name = hs.remove name := by
  rw [insert, remove, List.filter_append, remove, List.filter_filter]
  simp

/-! ## Names -/

theorem Named.remove (h : hs.Named) (name : String) : (hs.remove name).Named :=
  fun e he => h e (List.mem_filter.mp he).1

theorem Named.insert (h : hs.Named) (hname : name? name = some name) (value : Bytes) :
    (hs.insert name value).Named := by
  intro e he
  rcases List.mem_append.mp he with he | he
  · exact h.remove name e he
  · rw [List.mem_singleton.mp he]
    exact hname

theorem Named.assign (h : hs.Named) (hname : name? name = some name) (value : Option Bytes) :
    (hs.assign name value).Named := by
  cases value with
  | none => exact h.remove name
  | some bs => exact h.insert hname bs

theorem Named.apply (h : hs.Named) (a : CacheHeaders) : (a.apply hs).Named :=
  ((h.assign (by decide) a.tags).assign (by decide) a.maxAge).assign (by decide) a.keys

theorem values_eq_nil_iff : hs.values name = [] ↔ hs.get? name = none := by
  rw [values, get?, List.map_eq_nil_iff, List.filter_eq_nil_iff, Option.map_eq_none_iff, List.find?_eq_none]

/-! ## Values -/

theorem isPrintable_iff {b : UInt8} : isPrintable b = true ↔ isValueByte b = true ∧ b.toNat < 128 := by
  have h20 : (0x20 : UInt8).toNat = 32 := rfl
  have h7f : (0x7f : UInt8).toNat = 127 := rfl
  have h09 : (0x09 : UInt8).toNat = 9 := rfl
  simp only [isPrintable, isValueByte, Bool.or_eq_true, Bool.and_eq_true, decide_eq_true_eq,
    UInt8.le_iff_toNat_le, UInt8.lt_iff_toNat_lt, ← UInt8.toNat_inj, ne_eq, h20, h7f, h09]
  omega

theorem encode_printable {b : UInt8} (h : isPrintable b = true) :
    String.utf8EncodeChar (Char.ofNat b.toNat) = [b] := by
  have hb : b.toNat < 128 := (isPrintable_iff.mp h).2
  have hval : (Char.ofNat b.toNat).val.toNat = b.toNat := by
    have hvalid : b.toNat.isValidChar := Or.inl (by omega)
    rw [Char.ofNat, dif_pos hvalid]
    rfl
  rw [String.utf8EncodeChar]
  simp only [hval]
  rw [if_pos (by omega), UInt8.ofNat_toNat]

/-- A value that has a text comes back from it. -/
theorem ofText?_of_text? {text : String} (h : text? value = some text) : ofText? text = some value := by
  unfold text? at h
  split at h
  · next hall =>
    obtain rfl := Option.some.inj h
    have hbytes : Bytes.ofText (String.ofList (value.map fun b => Char.ofNat b.toNat)) = value := by
      rw [Bytes.ofText_eq_flatMap, String.toList_ofList, List.flatMap_map]
      clear h
      induction value with
      | nil => rfl
      | cons b rest ih =>
        have hb := List.all_eq_true.mp hall
        rw [List.flatMap_cons, encode_printable (hb b List.mem_cons_self),
          ih (List.all_eq_true.mpr fun c hc => hb c (List.mem_cons_of_mem _ hc))]
        rfl
    have hvalue : isValue value = true :=
      List.all_eq_true.mpr fun b hb => (isPrintable_iff.mp (List.all_eq_true.mp hall b hb)).1
    rw [ofText?, hbytes, if_pos hvalue]
  · cases h

/-! ## Texts as values -/

/-- The bytes of a character are ASCII when the character is. -/
theorem ascii_utf8EncodeChar {c : Char} :
    (∀ b ∈ String.utf8EncodeChar c, b.toNat < 128) ↔ c.toNat < 128 := by
  have hval : c.val.toNat = c.toNat := rfl
  simp only [String.utf8EncodeChar, hval]
  split
  · simp; omega
  · split
    · simp; omega
    · split
      · simp; omega
      · simp; omega

theorem ascii_ofText {s : String} : (∀ b ∈ Bytes.ofText s, b.toNat < 128) ↔ Text.Ascii s := by
  rw [Bytes.ofText_eq_flatMap]
  simp only [List.mem_flatMap, forall_exists_index, and_imp]
  constructor
  · exact fun h c hc => ascii_utf8EncodeChar.mp fun b hb => h b c hc hb
  · exact fun h b c hc => ascii_utf8EncodeChar.mpr (h c hc) b

/-- A text that was written as a value comes back when it is ASCII, and else the value has no text. -/
theorem text?_of_ofText? {s : String} {bs : Bytes} (h : ofText? s = some bs) :
    text? bs = if Text.Ascii s then some s else none := by
  unfold ofText? at h
  split at h
  · next hvalue =>
    obtain rfl := Option.some.inj h
    have hall : (Bytes.ofText s).all isPrintable = true ↔ Text.Ascii s := by
      rw [← ascii_ofText, List.all_eq_true]
      exact forall₂_congr fun b hb => by simp [isPrintable_iff, List.all_eq_true.mp hvalue b hb]
    split
    · next hs =>
      obtain ⟨text, htext⟩ : ∃ text, text? (Bytes.ofText s) = some text :=
        ⟨_, if_pos (hall.mpr hs)⟩
      have hback := ofText?_of_text? htext
      unfold ofText? at hback
      split at hback
      · rw [htext, Bytes.ofText_injective (Option.some.inj hback)]
      · cases hback
    · next hs => exact if_neg fun hp => hs (hall.mp hp)
  · cases h

/-! ## Texts that can be sent -/

variable {b : UInt8} {c : Char} {s : String}

/-- A character that a value may hold: no control character but the tab. -/
def Sendable (c : Char) : Prop := 0x20 ≤ c.toNat ∧ c.toNat ≠ 0x7f ∨ c = '\t'

instance (c : Char) : Decidable (Sendable c) := inferInstanceAs (Decidable (_ ∨ _))

theorem isValueByte_of_le (h : 128 ≤ b.toNat) : isValueByte b = true := by
  have h20 : (0x20 : UInt8).toNat = 32 := rfl
  have h7f : (0x7f : UInt8).toNat = 127 := rfl
  simp only [isValueByte, Bool.or_eq_true, Bool.and_eq_true, decide_eq_true_eq, UInt8.le_iff_toNat_le,
    ← UInt8.toNat_inj, ne_eq, h20, h7f]
  omega

/-- Beyond ASCII all bytes of a character are at least 128. -/
theorem le_of_mem_utf8EncodeChar (hc : 128 ≤ c.toNat) (hb : b ∈ String.utf8EncodeChar c) : 128 ≤ b.toNat := by
  have hval : c.val.toNat = c.toNat := rfl
  simp only [String.utf8EncodeChar, hval] at hb
  split at hb
  · omega
  · split at hb
    · simp at hb
      rcases hb with rfl | rfl <;> simp <;> omega
    · split at hb
      · simp at hb
        rcases hb with rfl | rfl | rfl <;> simp <;> omega
      · simp at hb
        rcases hb with rfl | rfl | rfl | rfl <;> simp <;> omega

theorem isValue_utf8EncodeChar : isValue (String.utf8EncodeChar c) = true ↔ Sendable c := by
  by_cases hc : c.toNat < 128
  · exact Text.forall_of_lt (P := fun c => isValue (String.utf8EncodeChar c) = true ↔ Sendable c) (by decide) hc
  · refine iff_of_true (List.all_eq_true.mpr fun b hb => ?_) (.inl ⟨by omega, by omega⟩)
    exact isValueByte_of_le (le_of_mem_utf8EncodeChar (by omega) hb)

/-- A text can be a value when all its characters can be sent. -/
theorem exists_ofText?_iff : (∃ bs, ofText? s = some bs) ↔ ∀ c ∈ s.toList, Sendable c := by
  have hall : isValue (.ofText s) = true ↔ ∀ c ∈ s.toList, Sendable c := by
    rw [Bytes.ofText_eq_flatMap, isValue, List.all_flatMap, List.all_eq_true]
    exact forall₂_congr fun c _ => isValue_utf8EncodeChar
  rw [← hall, ofText?]
  split
  · next h => exact iff_of_true ⟨_, rfl⟩ h
  · next h => exact iff_of_false nofun h

theorem ofText_of_ofText? {bs : Bytes} (h : ofText? s = some bs) : bs = .ofText s := by
  unfold ofText? at h
  split at h
  · exact (Option.some.inj h).symm
  · cases h

/-- A character from the blank to the tilde. -/
def Plain (c : Char) : Prop := 0x20 ≤ c.toNat ∧ c.toNat < 0x7f

instance (c : Char) : Decidable (Plain c) := inferInstanceAs (Decidable (_ ∧ _))

theorem Plain.sendable (h : Plain c) : Sendable c := .inl ⟨h.1, Nat.ne_of_lt h.2⟩

theorem ofText?_of_plain (h : ∀ c ∈ s.toList, Plain c) : ofText? s = some (Bytes.ofText s) := by
  obtain ⟨bs, hbs⟩ := exists_ofText?_iff.mpr fun c hc => (h c hc).sendable
  rw [hbs, ofText_of_ofText? hbs]

theorem ascii_of_plain (h : ∀ c ∈ s.toList, Plain c) : Text.Ascii s :=
  fun c hc => Nat.lt_of_lt_of_le (h c hc).2 (by decide)

end Headers

namespace Page.Record

/-- Of the fields of a response, those come back from its record whose values have a text. -/
theorem storedHeaders?_ofResponse {hs : Headers} (h : hs.Named) :
    storedHeaders? (hs.filterMap fun e => (Headers.text? e.2).map fun text => (e.1, text)) =
      some (hs.filter fun e => (Headers.text? e.2).isSome) := by
  induction hs with
  | nil => rfl
  | cons e rest ih =>
    have hrest := ih fun e he => h e (List.mem_cons_of_mem _ he)
    cases ht : Headers.text? e.2 with
    | none => simpa [ht] using hrest
    | some text => simp [ht, storedHeaders?, Headers.ofText?_of_text? ht, h e List.mem_cons_self, hrest]

end Page.Record

theorem Page.named_annotated {r : Response} (h : r.headers.Named) (m : Metadata) :
    (annotated m r).headers.Named := by
  unfold annotated
  split
  · next a _ => exact h.apply a
  · exact h

end TaggedCache
