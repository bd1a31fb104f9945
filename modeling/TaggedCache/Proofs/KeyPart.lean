import TaggedCache.KeyPart
import TaggedCache.Proofs.Header
import TaggedCache.Proofs.Json
import TaggedCache.Proofs.Tag

/-!
# Keys in writing

The written form of a key reads back (`read_compact`). All its characters are plain but for those of the texts in
it from the delete character on, which are written as they are (`mem_compact`), so the form is ASCII when the texts
are (`ascii_compact`).
-/

namespace TaggedCache

open Headers (Plain)

/-! ## Quoted texts -/

namespace Json

variable {c d : Char} {s : String}

theorem escapeLetter?_of_le (hc : 0x7f ≤ c.toNat) : escapeLetter? c = none := by
  unfold escapeLetter?
  split
  case h_8 => rfl
  all_goals exact absurd hc (by decide)

theorem escapeChar_of_le (hc : 0x7f ≤ c.toNat) : escapeChar c = [c] := by
  rw [escapeChar, escapeLetter?_of_le hc]
  exact if_neg (by omega)

/-- Below the delete character everything is written with plain characters, and from there on as it is. -/
theorem mem_escapeChar (h : d ∈ escapeChar c) : Plain d ∨ d = c ∧ 0x7f ≤ c.toNat := by
  by_cases hc : c.toNat < 0x7f
  · have hplain := Text.forall_of_lt (P := fun c => (escapeChar c).all (fun d => Plain d) = true) (by decide) hc
    exact .inl (Text.forall_of_all hplain d h)
  · rw [escapeChar_of_le (by omega)] at h
    exact .inr ⟨List.mem_singleton.mp h, by omega⟩

theorem mem_quote (h : d ∈ quote s) : Plain d ∨ d ∈ s.toList ∧ 0x7f ≤ d.toNat := by
  rw [quote, List.mem_append, List.mem_cons, List.mem_flatMap, List.mem_singleton] at h
  rcases h with (rfl | ⟨c, hc, hd⟩) | rfl
  · exact .inl (by decide)
  · rcases mem_escapeChar hd with hplain | ⟨rfl, hhigh⟩
    · exact .inl hplain
    · exact .inr ⟨hc, hhigh⟩
  · exact .inl (by decide)

theorem mem_quote_of_le (hd : d ∈ s.toList) (hhigh : 0x7f ≤ d.toNat) : d ∈ quote s := by
  refine List.mem_append_left _ (List.mem_cons_of_mem _ (List.mem_flatMap.mpr ⟨d, hd, ?_⟩))
  rw [escapeChar_of_le hhigh]
  exact List.mem_singleton_self d

end Json

/-! ## Parts -/

namespace KeyPart

variable {p : KeyPart} {keys : List KeyPart} {d : Char}

/-- The text of a part, or the token of a context. -/
def text : KeyPart → String
  | .literal s => s
  | .context t => t

theorem chars_context (t : String) :
    (context t).toJson.chars = '\x7b' :: Json.quote "context" ++ ':' :: Json.quote t ++ ['\x7d'] :=
  rfl

theorem mem_chars_toJson (h : d ∈ p.toJson.chars) : Plain d ∨ d ∈ p.text.toList ∧ 0x7f ≤ d.toNat := by
  cases p with
  | literal s => exact Json.mem_quote h
  | context t =>
    have hopen : ∀ d ∈ '\x7b' :: Json.quote "context", Plain d := Text.forall_of_all (by decide)
    rw [chars_context, List.mem_append, List.mem_append, List.mem_singleton] at h
    rcases h with (h | h) | rfl
    · exact .inl (hopen d h)
    · rcases List.mem_cons.mp h with rfl | h
      · exact .inl (by decide)
      · exact Json.mem_quote h
    · exact .inl (by decide)

theorem mem_chars_toJson_of_le (hd : d ∈ p.text.toList) (hhigh : 0x7f ≤ d.toNat) : d ∈ p.toJson.chars := by
  cases p with
  | literal s => exact Json.mem_quote_of_le hd hhigh
  | context t =>
    rw [chars_context]
    have hquote := List.mem_cons_of_mem ':' (Json.mem_quote_of_le hd hhigh)
    exact List.mem_append_left _ (List.mem_append_right _ hquote)

/-! ## Keys -/

theorem toList_compact (keys : List KeyPart) : (listToJson keys).compact.toList =
    '[' :: Text.joinChars [','] (keys.map fun p => p.toJson.chars) ++ [']'] := by
  rw [Json.compact, String.toList_ofList, listToJson, Json.chars, Json.itemChars_eq, List.map_map]
  rfl

theorem mem_compact (h : d ∈ (listToJson keys).compact.toList) :
    Plain d ∨ ∃ p ∈ keys, d ∈ p.text.toList ∧ 0x7f ≤ d.toNat := by
  rw [toList_compact, List.mem_append, List.mem_cons, List.mem_singleton] at h
  rcases h with (rfl | h) | rfl
  · exact .inl (by decide)
  · rcases Text.mem_joinChars h with h | ⟨cs, hcs, h⟩
    · rw [List.mem_singleton.mp h]
      exact .inl (by decide)
    · obtain ⟨p, hp, rfl⟩ := List.mem_map.mp hcs
      exact (mem_chars_toJson h).imp id fun hd => ⟨p, hp, hd⟩
  · exact .inl (by decide)

theorem mem_compact_of_le {p : KeyPart} (hp : p ∈ keys) (hd : d ∈ p.text.toList) (hhigh : 0x7f ≤ d.toNat) :
    d ∈ (listToJson keys).compact.toList := by
  have hpart : p.toJson.chars ∈ keys.map fun p => p.toJson.chars := List.mem_map_of_mem hp
  rw [toList_compact]
  exact List.mem_append_left _ (List.mem_cons_of_mem _ (Text.subset_joinChars hpart
    (mem_chars_toJson_of_le hd hhigh)))

/-- The written form of a key is ASCII when the texts in it are. -/
theorem ascii_compact : Text.Ascii (listToJson keys).compact ↔ ∀ p ∈ keys, Text.Ascii p.text := by
  constructor
  · intro h p hp c hc
    by_cases hlow : c.toNat < 0x7f
    · omega
    · exact h c (mem_compact_of_le hp hc (by omega))
  · intro h d hd
    rcases mem_compact hd with ⟨-, hlow⟩ | ⟨p, hp, hmem, -⟩
    · omega
    · exact h p hp d hmem

/-- In the written form of a key only the delete character cannot be sent: the other control characters are
escaped. -/
theorem sendable_compact : (∀ c ∈ (listToJson keys).compact.toList, Headers.Sendable c) ↔
    ∀ p ∈ keys, ∀ c ∈ p.text.toList, c.toNat ≠ 0x7f := by
  constructor
  · intro h p hp c hc hdelete
    rcases h c (mem_compact_of_le hp hc (by omega)) with hsend | rfl
    · exact hsend.2 hdelete
    · exact absurd hdelete (by decide)
  · intro h c hc
    rcases mem_compact hc with hplain | ⟨p, hp, hmem, hhigh⟩
    · exact hplain.sendable
    · exact .inl ⟨by omega, h p hp c hmem⟩

theorem fits_listToJson (keys : List KeyPart) : Json.Fits Json.depthLimit (listToJson keys) := by
  show Json.Fits (126 + 1) (listToJson keys)
  refine .array fun v hv => ?_
  obtain ⟨p, -, rfl⟩ := List.mem_map.mp hv
  cases p with
  | literal s => exact .text s
  | context t =>
    refine .object fun m hm => ?_
    rw [List.mem_singleton.mp hm]
    exact .text t

/-- A written key reads back. -/
theorem read_compact (keys : List KeyPart) :
    (Json.read? (listToJson keys).compact).bind listOfJson? = some keys := by
  rw [Json.read?, Json.compact, String.toList_ofList, Json.readChars?_chars (fits_listToJson keys),
    Option.bind_some, listOfJson?_listToJson]

end KeyPart
end TaggedCache
