import TaggedCache.Proofs.Fingerprint
import TaggedCache.Proofs.Param

/-!
# Which queries have a fingerprint, and which share one

A query has no fingerprint when a parameter holds a flaw or a map with a key that is no text
(`fingerprint_result`). A query over JSON values is hashed as one JSON array of the scheme, the SQL and the values
(`encoding_ofJson`). So the hashed bytes give the query back when no value holds a float, and different queries
share a fingerprint only when their bytes are different and have one digest (`hashed_injective`).
-/

namespace TaggedCache

namespace Query

variable {sql : String} {params : List Param} {reason : String} {ps : List Char}

/-! ## Queries without a fingerprint -/

theorem encoding_of_flaw (h : Param.flaw? (.list params) = some reason) :
    encoding sql params = .error (.unfingerprintable reason) := by
  have h : Param.itemFlaw? params = some reason := h
  rw [encoding, h]

/-- Without a flaw the parameters decide. -/
theorem encoding_of_text (hflaw : Param.flaw? (.list params) = none) (hp : paramText params = .ok ps) :
    encoding sql params = .ok (Param.bracketed [Json.quote scheme, Json.quote sql, ps]) := by
  have hflaw : Param.itemFlaw? params = none := hflaw
  simp only [encoding, hflaw, chars_query, hp]
  rfl

theorem encoding_of_misnamed (hflaw : Param.flaw? (.list params) = none) (h : Param.Misnamed (.list params)) :
    encoding sql params = .error (.unfingerprintable Param.keyReason) := by
  have hp : paramText params = .error Param.keyReason := (Param.chars_eq_error_iff hflaw).mpr h
  have hflaw : Param.itemFlaw? params = none := hflaw
  simp only [encoding, hflaw, chars_query, hp]
  rfl

theorem fingerprint_eq_error_iff {fault : Fault} :
    fingerprint sql params = .error fault ↔ encoding sql params = .error fault := by
  unfold fingerprint
  cases encoding sql params with
  | error e => exact ⟨fun h => congrArg _ (Except.error.inj h), fun h => congrArg _ (Except.error.inj h)⟩
  | ok cs => exact ⟨nofun, nofun⟩

theorem encoding_of_fingerprint {digest : String} (h : fingerprint sql params = .ok digest) :
    ∃ cs, encoding sql params = .ok cs ∧
      digest = Bytes.hex (Sha256.digest (Bytes.ofText (String.ofList cs))) := by
  obtain ⟨cs, hcs, hdigest⟩ := bind_ok h
  exact ⟨cs, hcs, (Except.ok.inj hdigest).symm⟩

/-- The first flaw in the order of the walk is the reason, whatever keys stand before it. -/
theorem encoding_of_first_flaw {before after : List Param} {q : Param}
    (hwalk : Param.walk (.list params) = before ++ q :: after)
    (hbefore : ∀ p ∈ before, ∀ r, ¬ Param.Flawed p r) (hq : Param.Flawed q reason) :
    encoding sql params = .error (.unfingerprintable reason) := by
  refine encoding_of_flaw ?_
  rw [Param.flaw?_eq_walk, List.findSome?_eq_some_iff]
  have hnone : ∀ p ∈ before, Param.ownFlaw? p = none := fun p hp => Param.ownFlaw?_eq_none_iff.mpr (hbefore p hp)
  exact ⟨before, q, after, hwalk, Param.flawed_iff.mp hq, hnone⟩

theorem encoding_eq_error_iff : (∃ fault, encoding sql params = .error fault) ↔
    (∃ q reason, Param.Within q (.list params) ∧ Param.Flawed q reason) ∨ Param.Misnamed (.list params) := by
  constructor
  · rintro ⟨fault, h⟩
    cases hflaw : Param.flaw? (.list params) with
    | some reason =>
      obtain ⟨q, hq, hbad⟩ := Param.exists_flawed hflaw
      exact .inl ⟨q, reason, hq, hbad⟩
    | none =>
      rcases Param.chars_result hflaw with ⟨ps, hps⟩ | ⟨-, hbad⟩
      · rw [encoding_of_text hflaw hps] at h
        cases h
      · exact .inr hbad
  · intro h
    cases hflaw : Param.flaw? (.list params) with
    | some reason => exact ⟨_, encoding_of_flaw hflaw⟩
    | none =>
      rcases h with ⟨q, reason, hq, hbad⟩ | hbad
      · exact absurd hbad (Param.flaw?_eq_none_iff.mp hflaw q hq reason)
      · exact ⟨_, encoding_of_misnamed hflaw hbad⟩

theorem flaw?_of_encoding {cs : List Char} (h : encoding sql params = .ok cs) :
    Param.flaw? (.list params) = none := by
  cases hflaw : Param.flaw? (.list params) with
  | none => rfl
  | some reason =>
    rw [encoding_of_flaw hflaw] at h
    cases h

/-- What is written in the place of a float is its number, and so it is for every other float in that place. -/
theorem encoding_float {make : Floating → Param} {text : Floating → List Char} {path : List Param.Frame}
    {x : Floating} {cs : List Char} (hw : Param.Width make text) (hpath : Param.plug path (make x) = .list params)
    (h : encoding sql params = .ok cs) :
    x.isFinite = true ∧ text x ≠ Json.null.chars ∧ ∃ front back,
      encoding sql params = .ok (front ++ text x ++ back) ∧
      ∀ y, y.isFinite = true → ∃ others, Param.plug path (make y) = .list others ∧
        encoding sql others = .ok (front ++ text y ++ back) := by
  have hflaw := flaw?_of_encoding h
  obtain ⟨ps, hps, -⟩ := encoding_eq h
  have hps : Param.chars (.list params) = .ok ps := hps
  rw [← hpath] at hflaw hps
  have hx : x.isFinite = true := by
    by_contra hx
    obtain ⟨reason, hbad⟩ := hw.flawed (Bool.eq_false_iff.mpr hx)
    exact Param.flaw?_eq_none_iff.mp hflaw _ ⟨path, rfl⟩ reason hbad
  obtain ⟨a, b, hplace⟩ := Param.chars_plug_float hw hps
  have hencoding : ∀ (y : Floating) {others : List Param}, y.isFinite = true →
      Param.plug path (make y) = .list others → encoding sql others =
        .ok ('[' :: (Json.quote scheme ++ ',' :: (Json.quote sql ++ ',' :: a)) ++ text y ++ (b ++ [']'])) := by
    intro y others hy hothers
    have hfinite : Param.flaw? (make y) = none := by
      rw [hw.flaw?_make, Param.floatFlaw?, if_pos hy]
    rw [encoding_of_text (hothers ▸ Param.flaw?_plug hflaw hfinite) (hothers ▸ hplace y)]
    simp [Param.bracketed, Param.separated]
  refine ⟨hx, hw.text_ne_null hx, _, _, hencoding x hx hpath, fun y hy => ?_⟩
  obtain ⟨others, hothers⟩ := hw.plug_list hpath y
  exact ⟨others, hothers, hencoding y hy hothers⟩

/-- A query has no fingerprint exactly when a float that is no number or a value that refuses is inside a
parameter, or a map with a key that is no text. The first such value in depth-first order gives the reason,
whatever the keys are. In a query with a fingerprint every float is written as its number in the text whose digest
the fingerprint is. -/
theorem fingerprint_result (sql : String) (params : List Param) :
    ((∃ fault, fingerprint sql params = .error fault) ↔
      (∃ q reason, Param.Within q (.list params) ∧ Param.Flawed q reason) ∨ Param.Misnamed (.list params)) ∧
    (∀ before q after reason, Param.walk (.list params) = before ++ q :: after →
      (∀ p ∈ before, ∀ r, ¬ Param.Flawed p r) → Param.Flawed q reason →
      fingerprint sql params = .error (.unfingerprintable reason)) ∧
    (∀ make text path x, Param.Width make text → Param.plug path (make x) = .list params →
      ∀ digest, fingerprint sql params = .ok digest →
      x.isFinite = true ∧ text x ≠ Json.null.chars ∧ ∃ front back,
        encoding sql params = .ok (front ++ text x ++ back) ∧
        digest = Bytes.hex (Sha256.digest (Bytes.ofText (String.ofList (front ++ text x ++ back)))) ∧
        ∀ y, y.isFinite = true → ∃ others, Param.plug path (make y) = .list others ∧
          encoding sql others = .ok (front ++ text y ++ back)) := by
  refine ⟨?_, fun before q after reason hwalk hbefore hq => ?_, fun make text path x hw hpath digest h => ?_⟩
  · simp only [fingerprint_eq_error_iff]
    exact encoding_eq_error_iff
  · exact fingerprint_eq_error_iff.mpr (encoding_of_first_flaw hwalk hbefore hq)
  · obtain ⟨cs, hcs, hdigest⟩ := encoding_of_fingerprint h
    obtain ⟨hx, hnull, front, back, htext, hothers⟩ := encoding_float hw hpath hcs
    have hcs : cs = front ++ text x ++ back := Except.ok.inj (hcs.symm.trans htext)
    exact ⟨hx, hnull, front, back, htext, hcs ▸ hdigest, hothers⟩

example : fingerprint "SELECT ?" [.map [(.absent, .bool true)], .float64 .nan] =
    .error (.unfingerprintable "non-finite float parameter NaN") := rfl

end Query

/-! ## JSON values as parameters -/

namespace Param

mutual
theorem chars_ofJson : (v : Json) → chars (ofJson v) = .ok v.chars
  | .null => rfl
  | .bool b => rfl
  | .number (.integer i) => rfl
  | .number (.float x) => rfl
  | .text s => rfl
  | .array items => by
    rw [ofJson, chars, itemChars_ofItems items, Json.chars, Json.itemChars_eq, ← separated_eq]
    rfl
  | .object members => by
    rw [ofJson, chars, fieldChars_ofMembers members, Json.chars, Json.memberChars_eq, ← separated_eq]
    rfl

theorem itemChars_ofItems : (items : List Json) → itemChars (ofItems items) = .ok (items.map Json.chars)
  | [] => rfl
  | v :: rest => by
    rw [ofItems, itemChars, chars_ofJson v, itemChars_ofItems rest]
    rfl

theorem fieldChars_ofMembers : (members : List (String × Json)) →
    fieldChars (ofMembers members) = .ok (members.map Json.pairChars)
  | [] => rfl
  | (k, v) :: rest => by
    rw [ofMembers, fieldChars, chars_ofJson v, fieldChars_ofMembers rest]
    rfl
end

theorem ofItems_eq (items : List Json) : ofItems items = items.map ofJson := by
  induction items with
  | nil => rfl
  | cons v rest ih => rw [ofItems, ih, List.map_cons]

theorem ofMembers_eq (members : List (String × Json)) :
    ofMembers members = members.map fun m => (m.1, ofJson m.2) := by
  induction members with
  | nil => rfl
  | cons m rest ih => rw [ofMembers, ih, List.map_cons]

/-- A value without floats has no flaw. -/
theorem flaw?_ofJson {v : Json} (h : v.FloatFree) : flaw? (ofJson v) = none := by
  induction h with
  | array h ih =>
    rw [ofJson, flaw?, ofItems_eq, itemFlaw?_eq, List.findSome?_eq_none_iff]
    intro p hp
    obtain ⟨v, hv, rfl⟩ := List.mem_map.mp hp
    exact ih v hv
  | object h ih =>
    rw [ofJson, flaw?, ofMembers_eq, fieldFlaw?_eq, List.findSome?_eq_none_iff, List.map_map]
    intro p hp
    obtain ⟨m, hm, rfl⟩ := List.mem_map.mp hp
    exact ih m hm
  | _ => rfl

end Param

namespace Query

variable {sql other : String} {params more : List Json}

/-- A query over JSON values, as one JSON value. -/
def toJson (sql : String) (params : List Json) : Json := .array [.text scheme, .text sql, .array params]

theorem floatFree_toJson (sql : String) (h : ∀ v ∈ params, v.FloatFree) : (toJson sql params).FloatFree := by
  refine .array fun v hv => ?_
  simp only [List.mem_cons, List.not_mem_nil, or_false] at hv
  rcases hv with rfl | rfl | rfl
  · exact .text _
  · exact .text _
  · exact .array h

theorem encoding_ofJson (h : ∀ v ∈ params, v.FloatFree) :
    encoding sql (params.map Param.ofJson) = .ok (toJson sql params).chars := by
  have hflaw : Param.flaw? (.list (params.map Param.ofJson)) = none := by
    rw [← Param.ofItems_eq]
    exact Param.flaw?_ofJson (.array h)
  have htext : paramText (params.map Param.ofJson) = .ok (Json.array params).chars := by
    rw [paramText, ← Param.ofItems_eq]
    exact Param.chars_ofJson (.array params)
  have hwhole : (toJson sql params).chars =
      Param.bracketed [Json.quote scheme, Json.quote sql, (Json.array params).chars] := by
    rw [toJson, Json.chars, Json.itemChars_eq, ← Param.separated_eq]
    rfl
  rw [encoding_of_text hflaw htext, hwhole]

theorem toJson_injective (hp : ∀ v ∈ params, v.FloatFree) (hm : ∀ v ∈ more, v.FloatFree)
    (h : (toJson sql params).chars = (toJson other more).chars) : sql = other ∧ params = more := by
  have he := Json.chars_injective (floatFree_toJson sql hp) (floatFree_toJson other hm) h
  simpa [toJson] using he

/-- The bytes whose digest is the fingerprint (`fingerprint_eq`). -/
def hashed (sql : String) (params : List Param) : Except Fault Bytes := do
  .ok (Bytes.ofText (String.ofList (← encoding sql params)))

theorem fingerprint_eq (sql : String) (params : List Param) : fingerprint sql params = (do
    let bs ← hashed sql params
    .ok (Bytes.hex (Sha256.digest bs))) := by
  unfold fingerprint hashed
  cases encoding sql params <;> rfl

theorem hashed_ofJson (h : ∀ v ∈ params, v.FloatFree) :
    hashed sql (params.map Param.ofJson) = .ok (toJson sql params).bytes := by
  rw [hashed, encoding_ofJson h]
  rfl

/-- Queries over values without floats always have a fingerprint. The hashed bytes are the same only for the same
query, so a fingerprint that two queries share is one digest of different bytes. -/
theorem hashed_injective (sql other : String) (hp : ∀ v ∈ params, v.FloatFree) (hm : ∀ v ∈ more, v.FloatFree) :
    ∃ bs cs, hashed sql (params.map Param.ofJson) = .ok bs ∧ hashed other (more.map Param.ofJson) = .ok cs ∧
      (bs = cs → sql = other ∧ params = more) ∧
      (fingerprint sql (params.map Param.ofJson) = fingerprint other (more.map Param.ofJson) →
        ¬ (sql = other ∧ params = more) → bs ≠ cs ∧ Sha256.digest bs = Sha256.digest cs) := by
  have hinj : (toJson sql params).bytes = (toJson other more).bytes → sql = other ∧ params = more :=
    fun h => toJson_injective hp hm (String.ofList_injective (Bytes.ofText_injective h))
  refine ⟨_, _, hashed_ofJson hp, hashed_ofJson hm, hinj, fun hshared hne => ⟨mt hinj hne, ?_⟩⟩
  rw [fingerprint_eq, fingerprint_eq, hashed_ofJson hp, hashed_ofJson hm] at hshared
  exact Bytes.hex_injective (Except.ok.inj hshared)

/-- A text of one digit is not hashed as the number is. -/
theorem hashed_injective_digit : (∀ v ∈ [Json.text "1"], v.FloatFree) ∧
    (∀ v ∈ [Json.number (.integer 1)], v.FloatFree) ∧
    hashed "SELECT ?" ([Json.text "1"].map Param.ofJson) ≠
      hashed "SELECT ?" ([Json.number (.integer 1)].map Param.ofJson) := by
  have hp : ∀ v ∈ [Json.text "1"], v.FloatFree := List.forall_mem_singleton.mpr (.text _)
  have hm : ∀ v ∈ [Json.number (.integer 1)], v.FloatFree := List.forall_mem_singleton.mpr (.integer _)
  obtain ⟨bs, cs, hbs, hcs, hinj, -⟩ := hashed_injective "SELECT ?" "SELECT ?" hp hm
  refine ⟨hp, hm, fun h => ?_⟩
  rw [hbs, hcs] at h
  have hsame := (hinj (Except.ok.inj h)).2
  cases (List.cons.inj hsame).1

end Query
end TaggedCache
